import LockRegistry.Text.Case

/-! LIKE patterns: `%` stands for any run of characters, `_` for one, and a backslash escapes. -/

namespace LockRegistry.Database

inductive LikePart where
  | run
  | one
  | letter (c : Char)
deriving DecidableEq, Repr

namespace Like

def parse : List Char → Option (List LikePart)
  | [] => some []
  | '%' :: rest => (parse rest).map (.run :: ·)
  | '_' :: rest => (parse rest).map (.one :: ·)
  | '\\' :: c :: rest => (parse rest).map (.letter c :: ·)
  | ['\\'] => none
  | c :: rest => (parse rest).map (.letter c :: ·)

def suffixes : List Char → List (List Char)
  | [] => [[]]
  | c :: rest => (c :: rest) :: suffixes rest

-- What can be left of the texts after one part, the longest first and each an end of it.
def rests : LikePart → List (List Char) → List (List Char)
  | .run, texts => texts.head?.elim [] suffixes
  | .one, texts => texts.filterMap (·.tail?)
  | .letter d, texts => texts.filterMap fun
    | [] => none
    | c :: rest => if Text.sameLetter c d then some rest else none

def covers (parts : List LikePart) (text : List Char) : Bool :=
  (parts.foldl (fun texts part => rests part texts) [text]).contains []

def accepts (pattern text : String) : Bool := (parse pattern.toList).any (covers · text.toList)

end Like

end LockRegistry.Database

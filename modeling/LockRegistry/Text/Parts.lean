
namespace LockRegistry

namespace Text

def divide (mark : Char) (text : List Char) : List Char × List Char :=
  let (before, rest) := text.span (· ≠ mark)
  (before, rest.drop 1)

def parts (mark : Char) : List Char → List (List Char)
  | [] => [[]]
  | c :: rest =>
    match parts mark rest with
    | part :: others => if c = mark then [] :: part :: others else (c :: part) :: others
    | [] => [[c]]

end Text

end LockRegistry

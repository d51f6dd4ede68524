import LockRegistry.Command.Perform

namespace LockRegistry

namespace ErrorChain

def lines (text : String) : List String := text.splitOn "\n"

def causeLines (first others cause : String) : List String :=
  match lines cause with
  | [] => [first]
  | line :: rest => (first ++ line) :: rest.map (others ++ ·)

def numbered (cause : String × Nat) : List String :=
  causeLines s!"    {cause.2}: " "       " cause.1

def report : ErrorChain → List String
  | [] => []
  | [message] => lines ("Error: " ++ message)
  | [message, cause] =>
    lines ("Error: " ++ message) ++ ["", "Caused by:"] ++ causeLines "    " "    " cause
  | message :: causes =>
    lines ("Error: " ++ message) ++ ["", "Caused by:"] ++ causes.zipIdx.flatMap numbered

end ErrorChain

end LockRegistry

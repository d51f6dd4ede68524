
namespace LockRegistry

structure SessionInfo where
  sessionUser : Option String := none
  osUser : Option String := none
  program : Option String := none
  machine : Option String := none
deriving DecidableEq, Repr, Inhabited

end LockRegistry

import LockRegistry.Text.Numeral
import LockRegistry.Text.Parts

namespace LockRegistry

namespace IpAddress

def isOctet (cs : List Char) : Bool :=
  match Text.natural? cs with
  | some n => n ≤ 255 && (cs.length == 1 || (cs.length ≤ 3 && cs.head? != some '0'))
  | none => false

def isVersion4 (cs : List Char) : Bool :=
  let octets := Text.parts '.' cs
  octets.length == 4 && octets.all isOctet

def isGroup (cs : List Char) : Bool :=
  !cs.isEmpty && cs.length ≤ 4 && cs.all fun c => (Text.hexValue? c).isSome

def groupCount? (last : Bool) (cs : List Char) : Option Nat :=
  if cs.isEmpty then some 0
  else
    let groups := Text.parts ':' cs
    if groups.all isGroup then some groups.length
    else if last && groups.dropLast.all isGroup && groups.getLast?.any isVersion4 then
      some (groups.length + 1)
    else none

def splitGap : List Char → Option (List Char × List Char)
  | ':' :: ':' :: rest => some ([], rest)
  | c :: rest => (splitGap rest).map fun (left, right) => (c :: left, right)
  | [] => none

def isVersion6 (cs : List Char) : Bool :=
  match splitGap cs with
  | none => groupCount? true cs == some 8
  | some (left, right) =>
    match groupCount? false left, groupCount? true right with
    | some m, some n => m + n ≤ 7
    | _, _ => false

def isAddress (cs : List Char) : Bool := isVersion4 cs || isVersion6 cs

end IpAddress

end LockRegistry

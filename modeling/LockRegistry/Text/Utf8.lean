
namespace LockRegistry

namespace Text

structure PartialChar where
  missing : Nat
  least : Nat
  greatest : Nat
  bits : Nat
  length : Nat
deriving DecidableEq, Repr

namespace PartialChar

def ofByte? (b : Nat) : Option PartialChar :=
  if b < 0xC2 then none
  else if b < 0xE0 then some ⟨1, 0x80, 0xBF, b - 0xC0, 1⟩
  else if b < 0xF0 then
    some ⟨2, if b = 0xE0 then 0xA0 else 0x80, if b = 0xED then 0x9F else 0xBF, b - 0xE0, 1⟩
  else if b < 0xF5 then
    some ⟨3, if b = 0xF0 then 0x90 else 0x80, if b = 0xF4 then 0x8F else 0xBF, b - 0xF0, 1⟩
  else none

def accepts (p : PartialChar) (b : Nat) : Bool := p.least ≤ b && b ≤ p.greatest

def take (p : PartialChar) (b : Nat) : PartialChar :=
  ⟨p.missing - 1, 0x80, 0xBF, 0x40 * p.bits + (b - 0x80), p.length + 1⟩

end PartialChar

inductive Utf8Piece where
  | char (c : Char)
  | broken (length : Nat)
  | cut
deriving DecidableEq, Repr

def firstByte (b : Nat) : List Utf8Piece × Option PartialChar :=
  if b < 0x80 then ([.char (Char.ofNat b)], none)
  else match PartialChar.ofByte? b with
    | some p => ([], some p)
    | none => ([.broken 1], none)

def nextByte (p : Option PartialChar) (b : Nat) : List Utf8Piece × Option PartialChar :=
  match p with
  | none => firstByte b
  | some p =>
    if !p.accepts b then
      let (pieces, next) := firstByte b
      (.broken p.length :: pieces, next)
    else if p.missing = 1 then ([.char (Char.ofNat (p.take b).bits)], none)
    else ([], some (p.take b))

def utf8Pieces (p : Option PartialChar) : List UInt8 → List Utf8Piece
  | [] => if p.isSome then [.cut] else []
  | b :: rest =>
    let (pieces, next) := nextByte p b.toNat
    pieces ++ utf8Pieces next rest

def ofUtf8Lossy (bytes : List UInt8) : String :=
  String.ofList ((utf8Pieces none bytes).map fun
    | .char c => c
    | _ => '\ufffd')

structure Utf8Error where
  index : Nat
  length : Option Nat
deriving DecidableEq, Repr

def Utf8Error.message (e : Utf8Error) : String :=
  match e.length with
  | some n => s!"invalid utf-8 sequence of {n} bytes from index {e.index}"
  | none => s!"incomplete utf-8 byte sequence from index {e.index}"

def joinPieces (found : List Char) (index : Nat) : List Utf8Piece → Except Utf8Error String
  | [] => .ok (String.ofList found.reverse)
  | .char c :: rest => joinPieces (c :: found) (index + c.utf8Size) rest
  | .broken length :: _ => .error ⟨index, some length⟩
  | .cut :: _ => .error ⟨index, none⟩

def ofUtf8 (bytes : List UInt8) : Except Utf8Error String := joinPieces [] 0 (utf8Pieces none bytes)

def toUtf8 (cs : List Char) : List UInt8 := cs.flatMap String.utf8EncodeChar

end Text

end LockRegistry

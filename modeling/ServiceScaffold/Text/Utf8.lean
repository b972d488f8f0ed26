/-!
# Reading bytes as UTF-8

A byte sequence is read as a list of pieces, each a character or a fault that spans the bytes
spoilt. A fault ends before the first byte that cannot continue the sequence begun, and that
byte is examined afresh. `decode` stops at the first fault; `decodeLossy` leaves faults out.
-/
namespace ServiceScaffold

abbrev Bytes := List UInt8

namespace Text.Utf8

inductive Reason where
  | invalidStart
  | invalidContinuation
  | unexpectedEnd
  deriving DecidableEq, Repr

def Reason.text : Reason → String
  | .invalidStart => "invalid start byte"
  | .invalidContinuation => "invalid continuation byte"
  | .unexpectedEnd => "unexpected end of data"

structure Fault where
  position : Nat
  length : Nat
  firstByte : UInt8
  reason : Reason
  deriving DecidableEq, Repr

/-- A character begun: where, how many bytes it has, how many it still needs, the bounds of the
next one, and the bits read so far. -/
structure Pending where
  position : Nat
  firstByte : UInt8
  taken : Nat
  owed : Nat
  low : UInt8
  high : UInt8
  code : Nat

def Pending.fault (p : Pending) (reason : Reason) : Fault :=
  ⟨p.position, p.taken, p.firstByte, reason⟩

/-- The bytes that start a sequence of several bytes: how many follow, and the bounds of the
first of them, which keep out long forms, surrogates and what lies above U+10FFFF. -/
def lead? (position : Nat) (b : UInt8) : Option Pending :=
  let pending (owed : Nat) (low high : UInt8) (bits : Nat) : Pending :=
    ⟨position, b, 1, owed, low, high, bits⟩
  if 0xC2 ≤ b && b ≤ 0xDF then some (pending 1 0x80 0xBF (b.toNat - 0xC0))
  else if 0xE0 ≤ b && b ≤ 0xEF then
    some (pending 2 (if b = 0xE0 then 0xA0 else 0x80) (if b = 0xED then 0x9F else 0xBF)
      (b.toNat - 0xE0))
  else if 0xF0 ≤ b && b ≤ 0xF4 then
    some (pending 3 (if b = 0xF0 then 0x90 else 0x80) (if b = 0xF4 then 0x8F else 0xBF)
      (b.toNat - 0xF0))
  else none

abbrev Piece := Except Fault Char

def start (position : Nat) (b : UInt8) : List Piece × Option Pending :=
  if b < 0x80 then ([.ok (Char.ofNat b.toNat)], none)
  else match lead? position b with
    | some p => ([], some p)
    | none => ([.error ⟨position, 1, b, .invalidStart⟩], none)

def step (position : Nat) (b : UInt8) : Option Pending → List Piece × Option Pending
  | none => start position b
  | some p =>
    if p.low ≤ b && b ≤ p.high then
      let code := p.code * 64 + b.toNat % 64
      if p.owed ≤ 1 then ([.ok (Char.ofNat code)], none)
      else ([], some { p with taken := p.taken + 1, owed := p.owed - 1, low := 0x80,
                              high := 0xBF, code := code })
    else
      let (ps, next) := start position b
      (.error (p.fault .invalidContinuation) :: ps, next)

def piecesFrom (position : Nat) (pending : Option Pending) : Bytes → List Piece
  | [] => match pending with
    | none => []
    | some p => [.error (p.fault .unexpectedEnd)]
  | b :: bs =>
    let (ps, next) := step position b pending
    ps ++ piecesFrom (position + 1) next bs

def pieces (bs : Bytes) : List Piece :=
  piecesFrom 0 none bs

def decodePieces : List Piece → Except Fault (List Char)
  | [] => .ok []
  | .error f :: _ => .error f
  | .ok c :: ps => (decodePieces ps).map (c :: ·)

def decode (bs : Bytes) : Except Fault String :=
  (decodePieces (pieces bs)).map String.ofList

def decodeLossy (bs : Bytes) : List Char :=
  (pieces bs).filterMap fun
    | .ok c => some c
    | .error _ => none

def encode (s : String) : Bytes :=
  s.toList.flatMap String.utf8EncodeChar

def hexByte (b : UInt8) : String :=
  String.ofList [Nat.digitChar (b.toNat / 16), Nat.digitChar (b.toNat % 16)]

def Fault.message (f : Fault) : String :=
  (if f.length = 1 then
    "'utf-8' codec can't decode byte 0x" ++ hexByte f.firstByte ++ " in position "
      ++ toString f.position
  else
    "'utf-8' codec can't decode bytes in position " ++ toString f.position ++ "-"
      ++ toString (f.position + f.length - 1))
  ++ ": " ++ f.reason.text

end Text.Utf8

end ServiceScaffold

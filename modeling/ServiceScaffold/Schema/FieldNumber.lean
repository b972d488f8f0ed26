import ServiceScaffold.Text.Digit

/-!
# Field numbers

The number that a numeric literal stands for. Behind `0x` the digits are hexadecimal, behind
another leading zero octal, and otherwise decimal with an optional sign. The digits may be those
of any script, and a single underscore may stand between two of them or right behind a mark of
the base. A decimal literal of more than `decimalLimit` digits is refused, and a number that would
take as many cannot be written, however it was read.
-/
namespace ServiceScaffold.Schema.FieldNumber
open Text

def letterValue? (c : Char) : Option Nat :=
  if 'a' ≤ c && c ≤ 'f' then some (c.toNat - 'a'.toNat + 10)
  else if 'A' ≤ c && c ≤ 'F' then some (c.toNat - 'A'.toNat + 10)
  else none

def digitIn? (base : Nat) (c : Char) : Option Nat :=
  ((digitValue? c).or (letterValue? c)).filter (· < base)

/-- Reads on behind the value `acc`; an underscore may follow only a digit, and a digit only
may come last. -/
def digitsFrom? (base acc : Nat) (afterDigit : Bool) : List Char → Option Nat
  | [] => if afterDigit then some acc else none
  | c :: cs =>
    if c = '_' then
      if afterDigit then digitsFrom? base acc false cs else none
    else match digitIn? base c with
      | some d => digitsFrom? base (acc * base + d) true cs
      | none => none

def digits? (base : Nat) (cs : List Char) : Option Nat :=
  digitsFrom? base 0 false cs

/-- The digits behind a mark of the base, which one underscore may set off. -/
def markedDigits? (base : Nat) : List Char → Option Nat
  | '_' :: cs => digits? base cs
  | cs => digits? base cs

def decimalLimit : Nat := 4300

def decimal? (cs : List Char) : Option Nat :=
  if (cs.filter (· ≠ '_')).length ≤ decimalLimit then digits? 10 cs else none

def value? : List Char → Option Int
  | '0' :: c :: cs =>
    if c = 'x' || c = 'X' then (markedDigits? 16 cs).map Int.ofNat
    else if c = 'o' || c = 'O' then (markedDigits? 8 cs).map Int.ofNat
    else (digits? 8 ('0' :: c :: cs)).map Int.ofNat
  | '+' :: cs => (decimal? cs).map Int.ofNat
  | '-' :: cs => (decimal? cs).map fun n => -(n : Int)
  | cs => (decimal? cs).map Int.ofNat

/-- The least number with more than `decimalLimit` digits. -/
def writableBound : Nat := Nat.pow 10 decimalLimit

def isWritable (n : Int) : Bool :=
  n.natAbs < writableBound

end ServiceScaffold.Schema.FieldNumber

import ServiceScaffold.Text.Printable

/-!
# Quoted text

The form in which messages quote a piece of source: single quotes, unless the text has a single
quote and no double quote; a backslash before the chosen quote and before a backslash; letters
for line feed, carriage return and tab; and the shortest of three hexadecimal forms for any
other character that is not printable.
-/
namespace ServiceScaffold.Text

/-- The last `width` hexadecimal digits of a number. -/
def hexDigits (width n : Nat) : List Char :=
  (List.range width).reverse.map fun i => Nat.digitChar ((n >>> (4 * i)) % 16)

def escapeHex (c : Char) : List Char :=
  let n := c.toNat
  if n < 0x100 then ['\\', 'x'] ++ hexDigits 2 n
  else if n < 0x10000 then ['\\', 'u'] ++ hexDigits 4 n
  else ['\\', 'U'] ++ hexDigits 8 n

def quoteChar (quote c : Char) : List Char :=
  if c = quote || c = '\\' then ['\\', c]
  else if c = '\n' then ['\\', 'n']
  else if c = '\r' then ['\\', 'r']
  else if c = '\t' then ['\\', 't']
  else if isPrintable c then [c]
  else escapeHex c

def chosenQuote (s : List Char) : Char :=
  if s.contains '\'' && !s.contains '"' then '"' else '\''

def quoted (s : String) : String :=
  let cs := s.toList
  let q := chosenQuote cs
  String.ofList (q :: cs.flatMap (quoteChar q) ++ [q])

end ServiceScaffold.Text

import ServiceScaffold.Text.Quoted

/-!
# JSON as text

The indented form of a JSON value. Members and elements stand on lines of their own, two spaces
further in than what they belong to; every character outside visible ASCII is written as an
escape, and one above U+FFFF as the two escapes of a surrogate pair.
-/
namespace ServiceScaffold.Text

inductive Json where
  | text (s : String)
  | number (n : Int)
  | bool (b : Bool)
  | array (items : List Json)
  | object (members : List (String × Json))
  deriving Repr, Inhabited

namespace Json

def unitEscape (unit : Nat) : List Char :=
  ['\\', 'u'] ++ hexDigits 4 unit

def escapeChar (c : Char) : List Char :=
  if c = '"' then ['\\', '"']
  else if c = '\\' then ['\\', '\\']
  else if c = '\n' then ['\\', 'n']
  else if c = '\r' then ['\\', 'r']
  else if c = '\t' then ['\\', 't']
  else if c = '\x0c' then ['\\', 'f']
  else if c = '\x08' then ['\\', 'b']
  else if 32 ≤ c.toNat && c.toNat < 127 then [c]
  else if c.toNat < 0x10000 then unitEscape c.toNat
  else
    let n := c.toNat - 0x10000
    unitEscape (0xD800 + n / 0x400) ++ unitEscape (0xDC00 + n % 0x400)

def escaped (s : String) : String :=
  String.ofList ('"' :: s.toList.flatMap escapeChar ++ ['"'])

def newLine (depth : Nat) : String :=
  "\n" ++ String.ofList (List.replicate (2 * depth) ' ')

/-- Texts between brackets, each on a line of its own. -/
def enclosed (opening closing : String) (depth : Nat) (texts : List String) : String :=
  if texts.isEmpty then opening ++ closing
  else
    opening ++ ",".intercalate (texts.map (newLine (depth + 1) ++ ·)) ++ newLine depth ++ closing

mutual

def render (depth : Nat) : Json → String
  | text s => escaped s
  | number n => toString n
  | bool b => if b then "true" else "false"
  | array items => enclosed "[" "]" depth (renderItems (depth + 1) items)
  | object members => enclosed "\x7b" "\x7d" depth (renderMembers (depth + 1) members)

def renderItems (depth : Nat) : List Json → List String
  | [] => []
  | item :: items => render depth item :: renderItems depth items

def renderMembers (depth : Nat) : List (String × Json) → List String
  | [] => []
  | (key, value) :: members =>
    (escaped key ++ ": " ++ render depth value) :: renderMembers depth members

end

end Json

end ServiceScaffold.Text

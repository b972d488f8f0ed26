/-!
# Lexemes

The words, numbers, literals and signs of a schema, without their places. Keywords are reserved
by position only: wherever a name is expected they serve as names, which `Kind.isWord` allows.
-/
namespace ServiceScaffold.Schema

inductive Keyword where
  | syntaxMark | edition | package | importMark | option | message | enumeration | service
  | rpc | returns | stream | repeated | optional | required | oneof | map | reserved
  | extensions | extend | group
  deriving DecidableEq, Repr

namespace Keyword

def text : Keyword → String
  | syntaxMark => "syntax"
  | edition => "edition"
  | package => "package"
  | importMark => "import"
  | option => "option"
  | message => "message"
  | enumeration => "enum"
  | service => "service"
  | rpc => "rpc"
  | returns => "returns"
  | stream => "stream"
  | repeated => "repeated"
  | optional => "optional"
  | required => "required"
  | oneof => "oneof"
  | map => "map"
  | reserved => "reserved"
  | extensions => "extensions"
  | extend => "extend"
  | group => "group"

def label : Keyword → String
  | syntaxMark => "SYNTAX"
  | edition => "EDITION"
  | package => "PACKAGE"
  | importMark => "IMPORT"
  | option => "OPTION"
  | message => "MESSAGE"
  | enumeration => "ENUM"
  | service => "SERVICE"
  | rpc => "RPC"
  | returns => "RETURNS"
  | stream => "STREAM"
  | repeated => "REPEATED"
  | optional => "OPTIONAL"
  | required => "REQUIRED"
  | oneof => "ONEOF"
  | map => "MAP"
  | reserved => "RESERVED"
  | extensions => "EXTENSIONS"
  | extend => "EXTEND"
  | group => "GROUP"

def all : List Keyword :=
  [syntaxMark, edition, package, importMark, option, message, enumeration, service, rpc, returns,
   stream, repeated, optional, required, oneof, map, reserved, extensions, extend, group]

theorem mem_all (k : Keyword) : k ∈ all := by
  cases k <;> decide

def ofText? (s : String) : Option Keyword :=
  all.find? (·.text = s)

theorem text_of_ofText? {s : String} {k : Keyword} (h : ofText? s = some k) : k.text = s := by
  simpa using List.find?_some h

theorem ofText?_text (k : Keyword) : ofText? k.text = some k := by
  cases k <;> decide

end Keyword

inductive Delimiter where
  | lbrace | rbrace | lparen | rparen | lbracket | rbracket | langle | rangle
  | semicolon | comma | equals
  deriving DecidableEq, Repr

namespace Delimiter

def char : Delimiter → Char
  | lbrace => '{'
  | rbrace => '}'
  | lparen => '('
  | rparen => ')'
  | lbracket => '['
  | rbracket => ']'
  | langle => '<'
  | rangle => '>'
  | semicolon => ';'
  | comma => ','
  | equals => '='

def label : Delimiter → String
  | lbrace => "LBRACE"
  | rbrace => "RBRACE"
  | lparen => "LPAREN"
  | rparen => "RPAREN"
  | lbracket => "LBRACKET"
  | rbracket => "RBRACKET"
  | langle => "LANGLE"
  | rangle => "RANGLE"
  | semicolon => "SEMICOLON"
  | comma => "COMMA"
  | equals => "EQUALS"

def all : List Delimiter :=
  [lbrace, rbrace, lparen, rparen, lbracket, rbracket, langle, rangle, semicolon, comma, equals]

def ofChar? (c : Char) : Option Delimiter :=
  all.find? (·.char = c)

theorem char_of_ofChar? {c : Char} {d : Delimiter} (h : ofChar? c = some d) : d.char = c := by
  simpa using List.find?_some h

theorem ofChar?_char (d : Delimiter) : ofChar? d.char = some d := by
  cases d <;> decide

end Delimiter

inductive Kind where
  | keyword (k : Keyword)
  | delimiter (d : Delimiter)
  | ident
  | number
  | string
  | symbol
  | endOfInput
  deriving DecidableEq, Repr

namespace Kind

def label : Kind → String
  | keyword k => k.label
  | delimiter d => d.label
  | ident => "IDENT"
  | number => "NUMBER"
  | string => "STRING_LIT"
  | symbol => "SYMBOL"
  | endOfInput => "EOF"

def isWord : Kind → Bool
  | keyword _ => true
  | ident => true
  | _ => false

end Kind

/-- A kind with its text, which for a string literal is what stands between the quotes. -/
structure Lexeme where
  kind : Kind
  text : String
  deriving DecidableEq, Repr

namespace Lexeme

def endOfInput : Lexeme := ⟨.endOfInput, ""⟩

def isWord (l : Lexeme) : Bool := l.kind.isWord

def is (l : Lexeme) (k : Kind) : Bool := l.kind = k

def ofWord (text : String) : Lexeme :=
  match Keyword.ofText? text with
  | some k => ⟨.keyword k, text⟩
  | none => ⟨.ident, text⟩

def ofDelimiter (d : Delimiter) : Lexeme :=
  ⟨.delimiter d, String.singleton d.char⟩

theorem isWord_ofWord (text : String) : (ofWord text).isWord = true := by
  unfold ofWord
  split <;> rfl

theorem text_ofWord (text : String) : (ofWord text).text = text := by
  unfold ofWord
  split <;> rfl

end Lexeme

end ServiceScaffold.Schema

import ServiceScaffold.Schema.Lexeme
import ServiceScaffold.Text.Quoted

/-!
# What can be wrong with a schema

The causes for which a text is refused, and the words in which each is reported.
-/
namespace ServiceScaffold.Schema
open Text

/-- The stretch of a schema in which a lexeme stands that cannot start anything there. -/
inductive Region where
  | file
  | message
  | oneof
  | enumeration
  | service
  | rpc
  deriving DecidableEq, Repr

def Region.text : Region → String
  | .file => "at top level"
  | .message => "in message body"
  | .oneof => "in oneof body"
  | .enumeration => "in enum body"
  | .service => "in service body"
  | .rpc => "in rpc body"

inductive Cause where
  | unterminatedString
  | unexpected (found : Lexeme) (region : Region)
  | expected (kind : Kind) (found : Lexeme)
  | expectedSettingName (found : Lexeme)
  | expectedConstant (found : Lexeme)
  | expectedRpcEnd (rpc : String) (found : Lexeme)
  | invalidNumber (literal : String)
  | nonPositiveNumber (literal : String)
  | unfinishedStatement
  | unclosed (bracket : String)
  deriving DecidableEq, Repr

/-- A lexeme as messages show it. -/
def Lexeme.shown (l : Lexeme) : String :=
  l.kind.label ++ " (" ++ quoted l.text ++ ")"

def Cause.message : Cause → String
  | .unterminatedString => "Unterminated string literal"
  | .unexpected l region => "Unexpected " ++ l.shown ++ " " ++ region.text
  | .expected k l => "Expected " ++ k.label ++ ", got " ++ l.shown
  | .expectedSettingName l => "Expected option name, got " ++ l.shown
  | .expectedConstant l => "Expected constant, got " ++ l.shown
  | .expectedRpcEnd rpc l =>
    "Expected ';' or '\x7b' after rpc " ++ rpc ++ ", got " ++ l.shown
  | .invalidNumber text => "Invalid field number " ++ quoted text
  | .nonPositiveNumber text => "Field number must be a positive integer, got " ++ text
  | .unfinishedStatement => "Unexpected end of input, expected ';'"
  | .unclosed bracket => "Unclosed " ++ quoted bracket

/-- A cause, and the lexeme blamed: the one that has `remaining` lexemes from itself to the
last, the end of the input having none. -/
structure Fault where
  cause : Cause
  remaining : Nat
  deriving DecidableEq, Repr

end ServiceScaffold.Schema

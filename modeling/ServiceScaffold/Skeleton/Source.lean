import ServiceScaffold.Skeleton.Types

/-!
# Pieces of Go source

A file is a list of lines. The pieces that both layers share are structs, made of fields, and
methods, whose signatures name a parameter, where there is one, behind the context.
-/
namespace ServiceScaffold.Skeleton

abbrev Lines := List String

/-- A line feed ends every line, the last one too. -/
def Lines.text (lines : Lines) : String :=
  String.join (lines.map (· ++ "\n"))

/-- Lines that are there only under a condition. -/
def given (condition : Bool) (lines : Lines) : Lines :=
  if condition then lines else []

def clause (packageName : String) : String :=
  "package " ++ packageName

def openBrace : String := "\x7b"

def closeBrace : String := "\x7d"

/-! ## Structs -/

structure StructField where
  name : String
  type : String
  tag : Option String
  comment : Option String
  deriving DecidableEq, Repr

/-- A text behind a mark, where there is one. -/
def behind (mark : String) : Option String → String
  | some text => mark ++ text
  | none => ""

def StructField.line (f : StructField) : String :=
  "\t" ++ f.name ++ " " ++ f.type ++ behind " " f.tag ++ behind " // " f.comment

/-- A comment that is left out when it says nothing. -/
def comment? (text : String) : Option String :=
  if text = "" then none else some text

def structHead (name : String) : String :=
  "type " ++ name ++ " struct " ++ openBrace

structure Struct where
  name : String
  fields : List StructField
  deriving DecidableEq, Repr

def Struct.lines (s : Struct) : Lines :=
  structHead s.name :: s.fields.map StructField.line ++ [closeBrace]

/-! ## Methods -/

structure Parameter where
  name : String
  type : String
  deriving DecidableEq, Repr

structure Signature where
  name : String
  parameter : Option Parameter
  result : String
  deriving DecidableEq, Repr

/-- What follows the context in a list of parameters. -/
def Signature.parameterText (s : Signature) : String :=
  match s.parameter with
  | some p => ", " ++ p.name ++ " " ++ p.type
  | none => ""

/-- What follows the context in a call that passes the parameter on. -/
def Signature.argumentText (s : Signature) : String :=
  match s.parameter with
  | some p => ", " ++ p.name
  | none => ""

def Signature.text (s : Signature) : String :=
  s.name ++ "(ctx context.Context" ++ s.parameterText ++ ") (" ++ s.result ++ ", error)"

/-- The first line of a method's definition. -/
def methodHead (receiver : String) (s : Signature) : String :=
  "func (" ++ receiver ++ ") " ++ s.text ++ " " ++ openBrace

end ServiceScaffold.Skeleton

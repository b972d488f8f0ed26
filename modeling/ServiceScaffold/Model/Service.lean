import ServiceScaffold.Text.Segment

/-!
# The model of a service

What the generators need to know of one service: its methods, and the messages, imports and
packages of the schema that declares it. The type of a field is a text in which a leading `[]`
marks a repeated field.
-/
namespace ServiceScaffold.Model

/-! ## Field types -/

def repeatedMark : String := "[]"

def isRepeated (type : String) : Bool :=
  repeatedMark.toList.isPrefixOf type.toList

/-- The type of one element of a repeated field, and of another field the type itself. -/
def elementType (type : String) : String :=
  if isRepeated type then String.ofList (type.toList.drop repeatedMark.length) else type

def basicTypes : List String :=
  ["bool", "int32", "int64", "uint32", "uint64", "float32", "float64", "float", "double",
   "string", "bytes"]

/-- Whether a type needs no declaration of its own. -/
def isBasic (type : String) : Bool :=
  elementType type ∈ basicTypes

/-! ## Services -/

inductive Streaming where
  | unary
  | client
  | server
  | both
  deriving DecidableEq, Repr

namespace Streaming

def ofFlags (request response : Bool) : Streaming :=
  match request, response with
  | true, true => both
  | true, false => client
  | false, true => server
  | false, false => unary

def request : Streaming → Bool
  | client => true
  | both => true
  | _ => false

def response : Streaming → Bool
  | server => true
  | both => true
  | _ => false

def text : Streaming → String
  | unary => "unary"
  | client => "client_streaming"
  | server => "server_streaming"
  | both => "bidirectional"

@[simp] theorem request_ofFlags (a b : Bool) : (ofFlags a b).request = a := by
  cases a <;> cases b <;> rfl

@[simp] theorem response_ofFlags (a b : Bool) : (ofFlags a b).response = b := by
  cases a <;> cases b <;> rfl

theorem ofFlags_flags (s : Streaming) : ofFlags s.request s.response = s := by
  cases s <;> rfl

end Streaming

structure Field where
  name : String
  type : String
  number : Int
  deriving DecidableEq, Repr

namespace Field

def isBasic (f : Field) : Bool := Model.isBasic f.type

def isRepeated (f : Field) : Bool := Model.isRepeated f.type

/-- The message or enumeration that a field's type refers to; empty for a basic type. -/
def typeName (f : Field) : String :=
  if f.isBasic then "" else elementType f.type

end Field

structure Message where
  name : String
  fields : List Field
  deriving DecidableEq, Repr

def Message.field? (m : Message) (name : String) : Option Field :=
  m.fields.find? (·.name = name)

structure Method where
  name : String
  requestFull : String
  responseFull : String
  requestShort : String
  responseShort : String
  streaming : Streaming
  deriving DecidableEq, Repr

structure Service where
  name : String
  protoPackage : String
  goPackage : String
  methods : List Method
  messages : List Message
  importPaths : List String
  sourceFile : String
  deriving DecidableEq, Repr

def Service.message? (s : Service) (name : String) : Option Message :=
  s.messages.find? (·.name = name)

/-- The field numbers of all messages. -/
def Service.numbers (s : Service) : List Int :=
  s.messages.flatMap fun m => m.fields.map (·.number)

end ServiceScaffold.Model

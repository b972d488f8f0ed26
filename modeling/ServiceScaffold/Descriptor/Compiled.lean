import ServiceScaffold.Schema.Declaration
import ServiceScaffold.Text.Segment
import ServiceScaffold.Text.Utf8

/-!
# Compiled schemas

What a schema compiler writes for a file: the same declarations as in its text, with types by
code, map entries as nested messages and oneofs by index. What reads them from bytes is a
parameter, the `Decoder`.
-/
namespace ServiceScaffold.Descriptor

/-! ## Codes -/

inductive FieldKind where
  | double | float | int64 | uint64 | int32 | fixed64 | fixed32 | bool | string | group
  | message | bytes | uint32 | enumeration | sfixed32 | sfixed64 | sint32 | sint64
  deriving DecidableEq, Repr

namespace FieldKind

def ofCode? : Int → Option FieldKind
  | 1 => some double
  | 2 => some float
  | 3 => some int64
  | 4 => some uint64
  | 5 => some int32
  | 6 => some fixed64
  | 7 => some fixed32
  | 8 => some bool
  | 9 => some string
  | 10 => some group
  | 11 => some message
  | 12 => some bytes
  | 13 => some uint32
  | 14 => some enumeration
  | 15 => some sfixed32
  | 16 => some sfixed64
  | 17 => some sint32
  | 18 => some sint64
  | _ => none

/-- The word that declares a field of this kind. -/
def keyword : FieldKind → String
  | double => "double"
  | float => "float"
  | int64 => "int64"
  | uint64 => "uint64"
  | int32 => "int32"
  | fixed64 => "fixed64"
  | fixed32 => "fixed32"
  | bool => "bool"
  | string => "string"
  | group => "group"
  | message => "message"
  | bytes => "bytes"
  | uint32 => "uint32"
  | enumeration => "enum"
  | sfixed32 => "sfixed32"
  | sfixed64 => "sfixed64"
  | sint32 => "sint32"
  | sint64 => "sint64"

/-- The word for a type code, of which there are more than kinds. -/
def keywordOfCode (code : Int) : String :=
  match ofCode? code with
  | some k => k.keyword
  | none => "unknown"

end FieldKind

inductive Cardinality where
  | optional
  | required
  | repeated
  deriving DecidableEq, Repr

def Cardinality.ofCode? : Int → Option Cardinality
  | 1 => some .optional
  | 2 => some .required
  | 3 => some .repeated
  | _ => none

/-! ## Declarations -/

theorem sizeOf_tail_lt {α : Type} [SizeOf α] (a : α) (as : List α) :
    sizeOf as < sizeOf (a :: as) := by
  simp only [List.cons.sizeOf_spec]
  omega

structure Field where
  name : String
  number : Int
  cardinality : Cardinality
  kind : FieldKind
  typeName : String
  oneofIndex : Option Int
  explicitOptional : Bool
  deriving DecidableEq, Repr

/-- Numbers from `start` up to but not including `stop`. -/
structure Range where
  start : Int
  stop : Int
  deriving DecidableEq, Repr

inductive Message where
  | mk (name : String) (fields : List Field) (nested : List Message)
      (enumerations : List Schema.Enumeration) (extensionRanges reservedRanges : List Range)
      (reservedNames : List String) (oneofs : List String) (isMapEntry : Bool)
  deriving Repr

namespace Message

def name : Message → String
  | mk name _ _ _ _ _ _ _ _ => name

def fields : Message → List Field
  | mk _ fields _ _ _ _ _ _ _ => fields

def nested : Message → List Message
  | mk _ _ nested _ _ _ _ _ _ => nested

def enumerations : Message → List Schema.Enumeration
  | mk _ _ _ enumerations _ _ _ _ _ => enumerations

def extensionRanges : Message → List Range
  | mk _ _ _ _ ranges _ _ _ _ => ranges

def reservedRanges : Message → List Range
  | mk _ _ _ _ _ ranges _ _ _ => ranges

def reservedNames : Message → List String
  | mk _ _ _ _ _ _ names _ _ => names

def oneofs : Message → List String
  | mk _ _ _ _ _ _ _ oneofs _ => oneofs

def isMapEntry : Message → Bool
  | mk _ _ _ _ _ _ _ _ isMapEntry => isMapEntry

theorem sizeOf_nested_lt (m : Message) (ms : List Message) :
    sizeOf m.nested < sizeOf (m :: ms) := by
  cases m
  simp only [nested, List.cons.sizeOf_spec, mk.sizeOf_spec]
  omega

end Message

structure Method where
  name : String
  inputType : String
  outputType : String
  clientStreaming : Bool
  serverStreaming : Bool
  deriving DecidableEq, Repr

structure Service where
  name : String
  methods : List Method
  deriving DecidableEq, Repr

structure File where
  name : String
  package : String
  dependencies : List String
  publicDependencies : List Int
  weakDependencies : List Int
  messages : List Message
  enumerations : List Schema.Enumeration
  services : List Service
  goPackage : Option String
  dialect : String
  deriving Repr

abbrev FileSet := List File

/-! ## Decoding -/

/-- Why bytes are no compiled schema. -/
inductive DecodingFault where
  /-- The bytes cannot be decoded, with what the decoder says of them. -/
  | malformed (complaint : String)
  /-- A text is not UTF-8. A decoder may well hand out its bytes then, but nothing that takes
  names from it can go on with them. -/
  | notText
  deriving DecidableEq, Repr

/-- A library that decodes compiled schemas. Whatever it makes of bytes, it either gives files or
says why it does not; nothing more is asked of one. -/
structure Decoder where
  file : Bytes → Except DecodingFault File
  fileSet : Bytes → Except DecodingFault FileSet

/-! ## Choosing a file -/

/-- What stands behind the last slash of a path. -/
def lastComponent (path : String) : String :=
  String.ofList (Text.afterLast '/' path.toList)

inductive SelectionFault where
  | noFiles
  | notFound (target : String) (found : List String)
  deriving DecidableEq, Repr

def SelectionFault.message : SelectionFault → String
  | .noFiles => "Descriptor set contains no files"
  | .notFound target found =>
    "Could not locate target file '" ++ target ++ "' in descriptor set. Found: "
      ++ ", ".intercalate found

/-- The file of a set to be modelled. With a target that is the first file of exactly that name,
or else the last one with the same last component, since dependencies come first. Without one it
is the last file that declares a service, or else the last file. -/
def FileSet.select (files : FileSet) (target : String) : Except SelectionFault File :=
  match files.getLast? with
  | none => .error .noFiles
  | some last =>
    if target = "" then
      .ok ((files.filter fun f => !f.services.isEmpty).getLast?.getD last)
    else
      match files.find? (·.name = target) with
      | some f => .ok f
      | none =>
        match (files.filter fun f => lastComponent f.name = lastComponent target).getLast? with
        | some f => .ok f
        | none => .error (.notFound target (files.map File.name))

end ServiceScaffold.Descriptor

import Mathlib.Data.List.Forall2
import ServiceScaffold.Proofs.Model.Declared

/-!
# How a compiler encodes a schema

`File.Encodes` relates a compiled schema to the declarations of its text. Fields stand in the
order of the text with types by code or by qualified name; a map field names an entry type that
the compiler nests in the very message, a group its body, a member of a oneof carries its index,
and what declares no field may be encoded in any way. The `strict` relation asks in addition that
the names of the made-up messages stay apart from those of the text: no field of the text has a
type that bears the name of a map entry, and no message of the text is named like a made-up one.
-/
namespace ServiceScaffold.Descriptor
open Naming

/-! ## Fields -/

/-- The kinds that have no name besides their keyword. -/
def FieldKind.isScalar : FieldKind → Bool
  | .group | .message | .enumeration => false
  | _ => true

def IsQualified (name : String) : Prop :=
  name.toList.head? = some '.'

instance (name : String) : Decidable (IsQualified name) :=
  inferInstanceAs (Decidable (name.toList.head? = some '.'))

/-- The type of a field, which the text calls `typeName`. -/
inductive Field.TypeEncodes (d : Field) (typeName : String) : Prop
  | scalar : d.kind.isScalar = true → d.kind.keyword = typeName → d.TypeEncodes typeName
  | named : d.kind = .message ∨ d.kind = .enumeration → IsQualified d.typeName →
      bare d.typeName = bare typeName → d.TypeEncodes typeName

/-- In the newer dialect the label `optional` is explicit and brings a synthetic oneof. -/
def Field.LabelEncodes (d : Field) : Schema.Label → Prop
  | .bare => d.cardinality = .optional ∧ d.explicitOptional = false
  | .optional => d.cardinality = .optional
  | .required => d.cardinality = .required ∧ d.explicitOptional = false
  | .repeated => d.cardinality = .repeated ∧ d.explicitOptional = false

structure Field.Encodes (d : Field) (f : Schema.Field) : Prop where
  name : d.name = f.name
  number : d.number = f.number
  type : d.TypeEncodes f.typeName
  label : d.LabelEncodes f.label
  repeated : f.repeated = decide (d.cardinality = .repeated)

/-- The map field whose entry type is `entry`. -/
structure Field.EncodesMap (d : Field) (entry : Message) (f : Schema.MapField) : Prop where
  name : d.name = f.name
  number : d.number = f.number
  kind : d.kind = .message
  repeated : d.cardinality = .repeated
  isMapEntry : entry.isMapEntry = true
  typeName : bare d.typeName = entry.name
  parts : ∃ key value, entry.fields = [key, value] ∧ key.TypeEncodes f.keyType ∧
    value.TypeEncodes f.valueType

structure Field.EncodesGroup (d : Field) (body : Message) (g : Schema.Group) : Prop where
  kind : d.kind = .group
  number : d.number = g.number
  label : d.LabelEncodes g.label
  typeName : bare d.typeName = body.name
  name : body.name = g.name
  isMapEntry : body.isMapEntry = false
  oneofIndex : d.oneofIndex = none

/-- The fields of a oneof, which carry its index. A group in a oneof is none of those that the
text keeps. -/
inductive MembersEncode (index : Nat) : List Field → List Schema.Field → Prop
  | nil : MembersEncode index [] []
  | field {d f ds fs} : d.Encodes f → d.oneofIndex = some (index : Int) →
      d.explicitOptional = false → MembersEncode index ds fs →
      MembersEncode index (d :: ds) (f :: fs)
  | group {d ds fs} : d.kind = .group → d.oneofIndex = some (index : Int) →
      d.explicitOptional = false → MembersEncode index ds fs → MembersEncode index (d :: ds) fs

/-! ## Messages -/

/-- What a compiler keeps in lists of their own. -/
def isUnfielded : Schema.Statement → Bool
  | .enumeration _ | .reserved _ | .extensions _ => true
  | _ => false

/-- A message that the compiler nests in `m` for a map or for a group. -/
def Message.MakesUp (m nested : Message) : Prop :=
  nested.isMapEntry = true ∧ nested.fields.length = 2 ∨
    nested.isMapEntry = false ∧ nested.name ∈ m.groupNames

/-- The fields `ds` and the nested messages `ns`, from some place on, of the message `m` encode
the elements `es`. -/
inductive ElementsEncode (strict : Bool) :
    Message → List Field → List Message → List Schema.MessageElement → Prop
  | nil {m} : ElementsEncode strict m [] [] []
  | field {m d f ds ns es} : d.Encodes f → d.oneofIndex = none ∨ d.explicitOptional = true →
      (strict = true → m.mapEntry? d = none) → ElementsEncode strict m ds ns es →
      ElementsEncode strict m (d :: ds) ns (.statement (.field f) :: es)
  | mapField {m d entry f ds ns es} : entry ∈ m.nested → d.EncodesMap entry f →
      ElementsEncode strict m ds ns es →
      ElementsEncode strict m (d :: ds) ns (.statement (.mapField f) :: es)
  | group {m d body g ds ns es} : body ∈ m.nested → d.EncodesGroup body g →
      ElementsEncode strict m ds ns es →
      ElementsEncode strict m (d :: ds) ns (.statement (.group g) :: es)
  | oneof {m index name members fs ds ns es} : m.oneofs[index]? = some name →
      MembersEncode index members fs → ElementsEncode strict m ds ns es →
      ElementsEncode strict m (members ++ ds) ns (.oneof ⟨name, fs⟩ :: es)
  | unfielded {m s ds ns es} : isUnfielded s = true → ElementsEncode strict m ds ns es →
      ElementsEncode strict m ds ns (.statement s :: es)
  | setting {m s ds ns es} : ElementsEncode strict m ds ns es →
      ElementsEncode strict m ds ns (.setting s :: es)
  | message {m child inner ds ns es} :
      ElementsEncode strict child child.fields child.nested inner →
      (strict = true → m.isMadeUp child = false) → child.isMapEntry = false →
      ElementsEncode strict m ds ns es →
      ElementsEncode strict m ds (child :: ns) (.message child.name inner :: es)
  | madeUp {m n ds ns es} : m.MakesUp n → ElementsEncode strict m ds ns es →
      ElementsEncode strict m ds (n :: ns) es

structure Message.Encodes (strict : Bool) (d : Message) (m : Schema.Message) : Prop where
  name : d.name = m.name
  elements : ElementsEncode strict d d.fields d.nested m.elements

/-! ## Files -/

/-- A method names its types in full. -/
structure Method.Encodes (d : Method) (r : Schema.Rpc) : Prop where
  name : d.name = r.name
  isQualified : IsQualified d.inputType ∧ IsQualified d.outputType
  inputType : bare d.inputType = bare r.requestType
  outputType : bare d.outputType = bare r.responseType
  clientStreaming : d.clientStreaming = r.requestStream
  serverStreaming : d.serverStreaming = r.responseStream

structure Service.Encodes (d : Service) (s : Schema.Service) : Prop where
  name : d.name = s.name
  methods : List.Forall₂ Method.Encodes d.methods s.rpcs

/-- A file without extensions, with at most one package and at most one Go package. -/
structure File.Encodes (strict : Bool) (d : File) (f : Schema.File) : Prop where
  statements : ∀ s, .statement s ∈ f → s.standsInFile = true ∧ ∀ extendee, s ≠ .extend extendee
  package : Model.packageNames f = [d.package] ∨ Model.packageNames f = [] ∧ d.package = ""
  goPackage : Model.goPackageValues f = d.goPackage.toList
  imports : Model.importPaths f = d.dependencies
  messages : List.Forall₂ (Message.Encodes strict) d.messages f.messages
  services : List.Forall₂ Service.Encodes d.services f.services

end ServiceScaffold.Descriptor

import ServiceScaffold.Descriptor.Compiled
import ServiceScaffold.Naming

/-!
# From a compiled schema to declarations

`File.declarations` says what the text of a compiled file would declare, so that both kinds of
source are modelled alike. Fields of a oneof are gathered where the first of them stands, a
repeated field of a map entry type is a map field, and the messages that a compiler makes up for
maps and groups are left out. A compiled file may refer to a oneof that it does not declare, or
have a map entry without a key or a value: then a `MissingPart` is reported.
-/
namespace ServiceScaffold.Descriptor
open Naming

inductive MissingPart where
  | mapEntryField (entry : String)
  | oneofDeclaration (message : String) (index : Int)
  deriving DecidableEq, Repr

/-! ## Fields -/

def Field.schemaType (f : Field) : String :=
  if (f.kind = .message ∨ f.kind = .enumeration) ∧ f.typeName ≠ "" then f.typeName
  else f.kind.keyword

def Cardinality.label : Cardinality → Schema.Label
  | .optional => .bare
  | .required => .required
  | .repeated => .repeated

def Field.toSchema (f : Field) : Schema.Field :=
  { typeName := f.schemaType
    name := f.name
    number := f.number
    repeated := f.cardinality = .repeated
    label := if f.explicitOptional then .optional else f.cardinality.label }

/-! ## Messages -/

/-- The map entry types nested in a message. -/
def Message.mapEntries (m : Message) : List Message :=
  m.nested.filter Message.isMapEntry

def Message.groupNames (m : Message) : List String :=
  (m.fields.filter (·.kind = .group)).map fun f => bare f.typeName

/-- The entry type of a map field: of entry types of one name the last one. -/
def Message.mapEntry? (m : Message) (f : Field) : Option Message :=
  if f.kind = .message ∧ f.cardinality = .repeated then
    m.mapEntries.reverse.find? (·.name = bare f.typeName)
  else none

inductive Role where
  | map (entry : Message)
  | member (index : Int)
  | group
  | plain

def Message.role (m : Message) (f : Field) : Role :=
  match m.mapEntry? f with
  | some entry => .map entry
  | none =>
    match f.oneofIndex, f.explicitOptional with
    | some index, false => .member index
    | _, _ => if f.kind = .group then .group else .plain

def Message.isMember (m : Message) (index : Int) (f : Field) : Bool :=
  match m.role f with
  | .member i => i = index
  | _ => false

/-- The name of a oneof. A negative index counts from the end. -/
def Message.oneofName (m : Message) (index : Int) : Except MissingPart String :=
  let position := if index < 0 then index + m.oneofs.length else index
  match (if position < 0 then none else m.oneofs[position.toNat]?) with
  | some name => .ok name
  | none => .error (.oneofDeclaration m.name index)

def mapField (entry : Message) (f : Field) : Except MissingPart Schema.MapField :=
  match entry.fields with
  | key :: value :: _ => .ok ⟨key.schemaType, value.schemaType, f.name, f.number⟩
  | _ => .error (.mapEntryField entry.name)

def Field.toGroup (f : Field) : Schema.Group :=
  ⟨bare f.typeName, f.number, f.cardinality.label⟩

/-- The elements that the fields of a message make, `seen` being the indices of the oneofs
already placed. -/
def Message.fieldElements (m : Message) (seen : List Int) :
    List Field → Except MissingPart (List Schema.MessageElement)
  | [] => .ok []
  | f :: fs =>
    match m.role f with
    | .map entry => do
      let head ← mapField entry f
      let tail ← m.fieldElements seen fs
      pure (.statement (.mapField head) :: tail)
    | .member index =>
      if index ∈ seen then m.fieldElements seen fs
      else do
        let name ← m.oneofName index
        let tail ← m.fieldElements (index :: seen) fs
        let members := (f :: fs).filter (m.isMember index)
        pure (.oneof ⟨name, members.map Field.toSchema⟩ :: tail)
    | .group => do
      let tail ← m.fieldElements seen fs
      pure (.statement (.group f.toGroup) :: tail)
    | .plain => do
      let tail ← m.fieldElements seen fs
      pure (.statement (.field f.toSchema) :: tail)

/-- Whether a nested message was made up for a map or a group. -/
def Message.isMadeUp (m nested : Message) : Bool :=
  nested.name ∈ m.mapEntries.map Message.name || nested.name ∈ m.groupNames

def Range.text (r : Range) : String :=
  toString r.start ++ " to " ++ toString (r.stop - 1)

/-- What stands behind the fields and the nested messages. -/
def Message.closingStatements (m : Message) : List Schema.Statement :=
  m.enumerations.map .enumeration
    ++ m.reservedRanges.map (fun r => .reserved r.text)
    ++ m.reservedNames.map (fun name => .reserved ("\"" ++ name ++ "\""))
    ++ m.extensionRanges.map (fun r => .extensions r.text)

def Message.closingElements (m : Message) : List Schema.MessageElement :=
  m.closingStatements.map .statement

/-- The nested messages for which `keep` holds, each as an element with its own elements. -/
def nestedElements (keep : Message → Bool) :
    List Message → Except MissingPart (List Schema.MessageElement)
  | [] => .ok []
  | m :: ms =>
    if keep m then do
      let own ← m.fieldElements [] m.fields
      let inner ← nestedElements (fun n => !m.isMadeUp n) m.nested
      let tail ← nestedElements keep ms
      pure (.message m.name (own ++ inner ++ m.closingElements) :: tail)
    else nestedElements keep ms
termination_by ms => sizeOf ms
decreasing_by
  · exact m.sizeOf_nested_lt ms
  all_goals exact sizeOf_tail_lt ..

def Message.elements (m : Message) : Except MissingPart (List Schema.MessageElement) := do
  let own ← m.fieldElements [] m.fields
  let inner ← nestedElements (fun n => !m.isMadeUp n) m.nested
  pure (own ++ inner ++ m.closingElements)

def Message.toSchema (m : Message) : Except MissingPart Schema.Message := do
  pure ⟨m.name, ← m.elements⟩

/-! ## Files -/

def File.importKind (f : File) (index : Nat) : Schema.ImportKind :=
  if (index : Int) ∈ f.publicDependencies then .reexported
  else if (index : Int) ∈ f.weakDependencies then .weak
  else .plain

def File.imports (f : File) : List Schema.Import :=
  f.dependencies.zipIdx.map fun (path, index) => ⟨path, f.importKind index⟩

def Method.toRpc (m : Method) : Schema.Rpc :=
  ⟨m.name, m.inputType, m.outputType, m.clientStreaming, m.serverStreaming, []⟩

def Service.toSchema (s : Service) : Schema.Service :=
  ⟨s.name, s.methods.map fun m => .rpc m.toRpc⟩

/-- The dialect of a file that names none. -/
def defaultDialect : String := "proto2"

/-- The settings that a compiled file carries as a declaration of the file. -/
def File.settings (f : File) : List Schema.Setting :=
  f.goPackage.toList.map fun path => ⟨"go_package", path⟩

/-- The statements before the settings of a file. -/
def File.openingStatements (f : File) : List Schema.Statement :=
  .dialect (if f.dialect = "" then defaultDialect else f.dialect)
    :: (if f.package = "" then [] else [.package f.package]) ++ f.imports.map .importing

def File.declarations (f : File) : Except MissingPart Schema.File := do
  let messages ← f.messages.mapM Message.toSchema
  pure (f.openingStatements.map .statement ++ f.settings.map .setting ++ messages.map .message
    ++ f.enumerations.map (fun e => .statement (.enumeration e))
    ++ f.services.map fun s => .service s.toSchema)

end ServiceScaffold.Descriptor

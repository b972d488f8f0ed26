import ServiceScaffold.Descriptor.Compiled
import ServiceScaffold.Descriptor.Wire

/-!
# Compiled schemas on the wire

`File.ofBytes` and `FileSet.ofBytes` read compiled schemas from the binary wire format: along the
layout of a compiled schema into records, and from the records into declarations. `Decoder.wire`
is the decoder that they make, and the one that is used where no other is given.
-/
namespace ServiceScaffold.Descriptor
open Wire

/-! ## Layout -/

/-- The kinds of message that a compiled schema is made of, options and source places included,
since they have to be well formed too. -/
inductive Part where
  | fileSet | file | message | field | oneof | enumeration | enumValue | service | method
  | extensionRange | numberRange | extensionDeclaration
  | fileOptions | messageOptions | fieldOptions | oneofOptions | enumOptions | enumValueOptions
  | serviceOptions | methodOptions | extensionRangeOptions
  | featureSet | featureSupport | editionDefault
  | uninterpretedOption | namePart | sourceInfo | sourceLocation
  deriving DecidableEq, Repr

def Part.inner? : Part → Nat → Option Part
  | fileSet, 1 => some file
  | file, 4 => some message
  | file, 5 => some enumeration
  | file, 6 => some service
  | file, 7 => some field
  | file, 8 => some fileOptions
  | file, 9 => some sourceInfo
  | message, 2 => some field
  | message, 3 => some message
  | message, 4 => some enumeration
  | message, 5 => some extensionRange
  | message, 6 => some field
  | message, 7 => some messageOptions
  | message, 8 => some oneof
  | message, 9 => some numberRange
  | field, 8 => some fieldOptions
  | oneof, 2 => some oneofOptions
  | enumeration, 2 => some enumValue
  | enumeration, 3 => some enumOptions
  | enumeration, 4 => some numberRange
  | enumValue, 3 => some enumValueOptions
  | service, 2 => some method
  | service, 3 => some serviceOptions
  | method, 4 => some methodOptions
  | extensionRange, 3 => some extensionRangeOptions
  | extensionRangeOptions, 2 => some extensionDeclaration
  | extensionRangeOptions, 50 => some featureSet
  | fileOptions, 50 => some featureSet
  | messageOptions, 12 => some featureSet
  | fieldOptions, 20 => some editionDefault
  | fieldOptions, 21 => some featureSet
  | fieldOptions, 22 => some featureSupport
  | oneofOptions, 1 => some featureSet
  | enumOptions, 7 => some featureSet
  | enumValueOptions, 2 => some featureSet
  | enumValueOptions, 4 => some featureSupport
  | serviceOptions, 34 => some featureSet
  | methodOptions, 35 => some featureSet
  | uninterpretedOption, 2 => some namePart
  | sourceInfo, 1 => some sourceLocation
  | part, 999 =>
    if part ∈ [extensionRangeOptions, fileOptions, messageOptions, fieldOptions, oneofOptions,
        enumOptions, enumValueOptions, serviceOptions, methodOptions] then
      some uninterpretedOption
    else none
  | _, _ => none

def Part.packed : Part → Nat → Bool
  | file, 10 => true
  | file, 11 => true
  | fieldOptions, 19 => true
  | sourceLocation, 1 => true
  | sourceLocation, 2 => true
  | _, _ => false

def layout : Layout Part := ⟨Part.inner?, Part.packed⟩

/-! ## Values -/

/-- The last integer under a number for which `f` has a meaning. -/
def lastMeaning? {α : Type} (f : Int → Option α) (rs : Records) (number : Nat) : Option α :=
  ((rs.ints number).filterMap fun n => f (Records.int32 n)).getLast?

def textOf (bs : Bytes) : Except DecodingFault String :=
  (Text.Utf8.decode bs).mapError fun _ => .notText

namespace Wire.Records

def texts (rs : Records) (number : Nat) : Except DecodingFault (List String) :=
  (rs.bytes number).mapM textOf

/-- The last of several texts of a field holds. -/
def text? (rs : Records) (number : Nat) : Except DecodingFault (Option String) :=
  (rs.bytes number).getLast?.mapM textOf

def text (rs : Records) (number : Nat) : Except DecodingFault String :=
  (rs.text? number).map fun t => t.getD ""

end Wire.Records

/-! ## Declarations -/

def Field.ofRecords (rs : Records) : Except DecodingFault Field := do
  pure
    { name := ← rs.text 1
      number := (rs.int32? 3).getD 0
      cardinality := (lastMeaning? Cardinality.ofCode? rs 4).getD .optional
      kind := (lastMeaning? FieldKind.ofCode? rs 5).getD .double
      typeName := ← rs.text 6
      oneofIndex := rs.int32? 9
      explicitOptional := rs.flag 17 }

def Range.ofRecords (rs : Records) : Range :=
  ⟨(rs.int32? 1).getD 0, (rs.int32? 2).getD 0⟩

def enumerationOfRecords (rs : Records) : Except DecodingFault Schema.Enumeration := do
  pure ⟨← rs.text 1, ← (rs.messages 2).mapM fun value => value.text 1⟩

def Message.ofRecordsWith (nested : List Message) (rs : Records) :
    Except DecodingFault Message := do
  pure (.mk (← rs.text 1) (← (rs.messages 2).mapM Field.ofRecords) nested
    (← (rs.messages 4).mapM enumerationOfRecords) ((rs.messages 5).map Range.ofRecords)
    ((rs.messages 9).map Range.ofRecords) (← rs.texts 10)
    (← (rs.messages 8).mapM fun oneof => oneof.text 1) ((rs.merged 7).flag 7))

/-- The messages under one number of a message, each with the messages nested in it, which stand
under the number 3. -/
def messagesOfRecords (number : Nat) : Records → Except DecodingFault (List Message)
  | [] => .ok []
  | (n, .message inner) :: rest =>
    if n = number then do
      let nested ← messagesOfRecords 3 inner
      let m ← Message.ofRecordsWith nested inner
      pure (m :: (← messagesOfRecords number rest))
    else messagesOfRecords number rest
  | _ :: rest => messagesOfRecords number rest
termination_by rs => sizeOf rs
decreasing_by
  · exact Content.sizeOf_records_lt ..
  all_goals exact sizeOf_tail_lt ..

def Method.ofRecords (rs : Records) : Except DecodingFault Method := do
  pure ⟨← rs.text 1, ← rs.text 2, ← rs.text 3, rs.flag 5, rs.flag 6⟩

def Service.ofRecords (rs : Records) : Except DecodingFault Service := do
  pure ⟨← rs.text 1, ← (rs.messages 2).mapM Method.ofRecords⟩

def File.ofRecords (rs : Records) : Except DecodingFault File := do
  pure
    { name := ← rs.text 1
      package := ← rs.text 2
      dependencies := ← rs.texts 3
      publicDependencies := (rs.ints 10).map Records.int32
      weakDependencies := (rs.ints 11).map Records.int32
      messages := ← messagesOfRecords 4 rs
      enumerations := ← (rs.messages 5).mapM enumerationOfRecords
      services := ← (rs.messages 6).mapM Service.ofRecords
      goPackage := ← (rs.merged 8).text? 11
      dialect := ← rs.text 12 }

/-! ## Bytes -/

def recordsOf (part : Part) (bs : Bytes) : Except DecodingFault Records :=
  (decode layout part bs).mapError fun fault => .malformed fault.text

def File.ofBytes (bs : Bytes) : Except DecodingFault File := do
  File.ofRecords (← recordsOf .file bs)

def FileSet.ofBytes (bs : Bytes) : Except DecodingFault FileSet := do
  ((← recordsOf .fileSet bs).messages 1).mapM File.ofRecords

def Decoder.wire : Decoder := ⟨File.ofBytes, FileSet.ofBytes⟩

end ServiceScaffold.Descriptor

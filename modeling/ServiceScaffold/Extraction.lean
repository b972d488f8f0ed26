import ServiceScaffold.Descriptor.Decoding
import ServiceScaffold.Failure
import ServiceScaffold.Model.Draft

/-!
# From a source to services

The ways to the services of a schema: from its text, from the bytes of its text, from a compiled
file, from a set of compiled files, and from any of these in a file. Each gives at least one
service, or the failure that stood in the way. Where bytes are to be a compiled schema the decoder
is a parameter, and that of the wire format unless another is given.
-/
namespace ServiceScaffold

/-- The services of a schema and what was noticed on the way to them. -/
structure Extraction where
  services : List Model.Service
  warnings : List Model.Warning
  sourceFile : String
  deriving DecidableEq, Repr

namespace Extraction
open Files

def ofDeclarations (file : Schema.File) (source : String) : Except Failure Extraction :=
  let draft := Model.Draft.ofEvents file.events
  match draft.toServices source with
  | [] => .error (.noService source)
  | services => .ok ⟨services, draft.warnings, source⟩

def ofText (text source : String) : Except Failure Extraction :=
  match Schema.File.ofText text with
  | .error fault => .error (.schema fault)
  | .ok file => ofDeclarations file source

def ofBytes (bs : Bytes) (source : String) : Except Failure Extraction :=
  match Text.Utf8.decode bs with
  | .error fault => .error (.notUtf8 source fault)
  | .ok text => ofText text source

/-- Of a compiled file; its own name serves where no source is named. -/
def ofCompiled (file : Descriptor.File) (source : String) : Except Failure Extraction :=
  match file.declarations with
  | .error part => .error (.missingPart part)
  | .ok declarations => ofDeclarations declarations (if source = "" then file.name else source)

def ofCompiledBytes (bs : Bytes) (source : String) (decoder : Descriptor.Decoder := .wire) :
    Except Failure Extraction :=
  match decoder.file bs with
  | .error fault => .error (.corruptFile source fault)
  | .ok file => ofCompiled file source

def selectFrom (bs : Bytes) (target source : String) (decoder : Descriptor.Decoder := .wire) :
    Except Failure Descriptor.File :=
  match decoder.fileSet bs with
  | .error fault => .error (.corruptSet source fault)
  | .ok files =>
    match files.select target with
    | .error fault => .error (.selection fault)
    | .ok file => .ok file

/-- Of the file chosen from a set by a target, which may be empty. -/
def ofSet (bs : Bytes) (target source : String) (decoder : Descriptor.Decoder := .wire) :
    Except Failure Extraction :=
  match selectFrom bs target source decoder with
  | .error failure => .error failure
  | .ok file => ofCompiled file source

/-! ## Sources in files -/

def readSource (d : Disk) (path : String) : Except Failure Bytes :=
  match d.read path with
  | .ok bs => .ok bs
  | .error (.refused code _) => .error (.unreadable path code.text)
  | .error .nulInPath => .error (.access .nulInPath)

def ofTextFile (d : Disk) (path : String) : Except Failure Extraction :=
  match readSource d path with
  | .error failure => .error failure
  | .ok bs => ofBytes bs path

def ofSetFile (d : Disk) (path target : String) (decoder : Descriptor.Decoder := .wire) :
    Except Failure Extraction :=
  match readSource d path with
  | .error failure => .error failure
  | .ok bs => ofSet bs target path decoder

/-! ## What holds of every extraction -/

theorem ofDeclarations_services_ne_nil {file : Schema.File} {source : String} {e : Extraction}
    (h : ofDeclarations file source = .ok e) : e.services ≠ [] := by
  unfold ofDeclarations at h
  simp only at h
  split at h
  · cases h
  · next hs => cases h; exact hs

theorem exists_declarations_of_ofText {text source : String} {e : Extraction}
    (h : ofText text source = .ok e) :
    ∃ file, Schema.File.ofText text = .ok file ∧ ofDeclarations file source = .ok e := by
  unfold ofText at h
  split at h
  · cases h
  · next file hf => exact ⟨file, hf, h⟩

/-- All services of a schema have its messages. -/
theorem ofDeclarations_messages_eq {file : Schema.File} {source : String} {e : Extraction}
    (h : ofDeclarations file source = .ok e) :
    ∀ s ∈ e.services, ∀ t ∈ e.services, s.messages = t.messages := by
  have he : e.services = (Model.Draft.ofEvents file.events).toServices source := by
    unfold ofDeclarations at h
    simp only at h
    split at h
    · cases h
    · cases h
      rfl
  intro s hs t ht
  rw [he] at hs ht
  obtain ⟨_, _, rfl⟩ := List.mem_map.1 hs
  obtain ⟨_, _, rfl⟩ := List.mem_map.1 ht
  rfl

end Extraction

end ServiceScaffold

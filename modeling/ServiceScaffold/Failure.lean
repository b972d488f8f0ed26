import ServiceScaffold.Descriptor.Conversion
import ServiceScaffold.Files.Disk
import ServiceScaffold.Schema.Grammar

/-!
# Failures

Everything that can keep a schema from becoming services, or services from becoming files. The
failures that are reported to a user as such are the `reported` ones; the others are faults of
the input or of the system for which no report is made.
-/
namespace ServiceScaffold

inductive Failure where
  | notUtf8 (source : String) (fault : Text.Utf8.Fault)
  | schema (fault : Schema.Located)
  | noService (source : String)
  | corruptFile (source : String) (fault : Descriptor.DecodingFault)
  | corruptSet (source : String) (fault : Descriptor.DecodingFault)
  | selection (fault : Descriptor.SelectionFault)
  | missingPart (part : Descriptor.MissingPart)
  | unreadable (path reason : String)
  | noCompiler
  | compilation (complaint : String)
  | access (error : Files.AccessError)
  | missingPath
  | missingPackage
  | unwritableNumber
  deriving DecidableEq, Repr

namespace Failure

/-- A source as messages name it. -/
def sourceName (source : String) : String :=
  if source = "" then "<memory>" else source

/-- What is wrong, without the place. -/
def diagnostic : Failure → String
  | notUtf8 source fault => sourceName source ++ " is not valid UTF-8: " ++ fault.message
  | schema fault => fault.cause.message
  | noService source =>
    "No service definition found" ++ if source = "" then "" else " in " ++ source
  | corruptFile source (.malformed complaint) =>
    sourceName source ++ ": invalid file descriptor: Error parsing message with type "
      ++ "'google.protobuf.FileDescriptorProto': " ++ complaint
  | corruptSet source (.malformed complaint) =>
    sourceName source ++ ": invalid descriptor set: Error parsing message with type "
      ++ "'google.protobuf.FileDescriptorSet': " ++ complaint
  | corruptFile _ .notText => "A name is not UTF-8"
  | corruptSet _ .notText => "A name is not UTF-8"
  | selection fault => fault.message
  | missingPart _ => "list index out of range"
  | unreadable path reason => "Cannot read '" ++ path ++ "': " ++ reason
  | noCompiler =>
    "'protoc' not found. Please install Protocol Buffers compiler and ensure it is in PATH."
  | compilation complaint => complaint
  | access error => error.message
  | missingPath => "A path is missing"
  | missingPackage => "A package is missing"
  | unwritableNumber => "A field number has too many digits to be written"

def position? : Failure → Option Schema.Position
  | schema fault => some fault.position
  | _ => none

def message (f : Failure) : String :=
  match f.position? with
  | some p =>
    "Line " ++ toString p.line ++ ":" ++ toString p.column ++ ": " ++ f.diagnostic
  | none => f.diagnostic

/-- Whether the failure is one that is reported to the user. -/
def reported : Failure → Bool
  | corruptFile _ .notText => false
  | corruptSet _ .notText => false
  | missingPart _ => false
  | access _ => false
  | missingPath => false
  | missingPackage => false
  | unwritableNumber => false
  | _ => true

end Failure

end ServiceScaffold

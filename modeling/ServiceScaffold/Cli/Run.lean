import ServiceScaffold.Cli.Arguments
import ServiceScaffold.Compilation
import ServiceScaffold.Text.Json

/-!
# What a command line does

`run` reads the arguments, extracts the services of the schema named there, and prints them or
writes the files of a layer. Extraction comes first: when it fails, nothing has been printed or
written yet.
-/
namespace ServiceScaffold.Cli
open Files Text

/-! ## Texts -/

def line (text : String) : String := text ++ "\n"

def fatal (text : String) : String := line ("FATAL: " ++ text)

def logLine (level origin text : String) : String :=
  line (level ++ " " ++ origin ++ ": " ++ text)

def warningLine (w : Model.Warning) : String :=
  let origin := match w with
    | .missingSuffix _ _ _ => "protoc_scaffold.builder"
    | .repeatedMessage _ => "protoc_scaffold.generator.common"
  logLine "WARNING" origin w.message

def warningText (ws : List Model.Warning) : String :=
  String.join (ws.map warningLine)

/-- All services of a schema have its messages. -/
def messageCount (services : List Model.Service) : Nat :=
  services.head?.toList.flatMap Model.Service.messages |>.length

def builtLine (e : Extraction) : String :=
  logLine "DEBUG" "protoc_scaffold.builder"
    ("Built " ++ toString e.services.length ++ " service(s) and "
      ++ toString (messageCount e.services) ++ " message(s) from "
      ++ Failure.sourceName e.sourceFile)

/-- What is logged of an extraction. -/
def extractionLog (verbose : Bool) (e : Extraction) : String :=
  warningText e.warnings ++ if verbose then builtLine e else ""

def layerWord : Layer → String
  | .domain => "biz"
  | .persistence => "data"

def parsedLine (source : String) (services : List Model.Service) : String :=
  line ("Parsed " ++ source ++ ": " ++ toString services.length ++ " service(s), "
    ++ toString (messageCount services) ++ " message(s)")

def creatingLine (directory : String) : String :=
  line ("Target directory: " ++ directory ++ " does not exist, creating...")

def skippedLine (l : Layer) (path : String) : String :=
  line (layerWord l ++ " file already exists: " ++ path)

def generatedLine (l : Layer) (path : String) : String :=
  line ("generated " ++ layerWord l ++ " file: " ++ path)

/-! ## Services as JSON -/

def fieldJson (f : Model.Field) : Json :=
  .object [("name", .text f.name), ("type", .text f.type), ("number", .number f.number),
    ("is_basic_type", .bool f.isBasic)]

def messageJson (m : Model.Message) : Json :=
  .object [("name", .text m.name), ("fields", .array (m.fields.map fieldJson))]

def methodJson (m : Model.Method) : Json :=
  .object [("name", .text m.name), ("request_type_full", .text m.requestFull),
    ("response_type_full", .text m.responseFull), ("request_type_short", .text m.requestShort),
    ("response_type_short", .text m.responseShort), ("streaming_mode", .text m.streaming.text)]

def serviceJson (s : Model.Service) : Json :=
  .object [("name", .text s.name), ("proto_package", .text s.protoPackage),
    ("go_package", .text s.goPackage), ("import_paths", .array (s.importPaths.map .text)),
    ("source_file", .text s.sourceFile), ("methods", .array (s.methods.map methodJson)),
    ("messages", .array (s.messages.map messageJson))]

def servicesText (services : List Model.Service) : String :=
  (Json.array (services.map serviceJson)).render 0

/-! ## Running -/

/-- What a run leaves behind besides files: its exit status and its two outputs. -/
structure Printed where
  status : Nat
  output : String
  errors : String
  deriving DecidableEq, Repr

def usage : String :=
  line "usage: protoc-scaffold [-h] \x7bbiz,data,show\x7d ... [options] proto"

def extract (c : Compiler) (r : Request) (d : Disk) (decoder : Descriptor.Decoder := .wire) :
    Except Failure Extraction × Disk :=
  if r.settings.fromDescriptor then (Extraction.ofSetFile d r.source "" decoder, d)
  else if r.settings.viaCompiler then
    match r.settings.includePaths? with
    | some paths => Compilation.extract c d r.source paths decoder
    | none =>
      (.error (if d.isFile r.source then .missingPath else Compilation.noSuchFile r.source), d)
  else (Extraction.ofTextFile d r.source, d)

def describe (r : Request) (e : Extraction) : Except Failure Printed :=
  if (e.services.flatMap Model.Service.numbers).all Schema.FieldNumber.isWritable then
    .ok ⟨0, line (servicesText e.services), extractionLog r.settings.verbose e⟩
  else .error .unwritableNumber

/-- What is printed of files that could not be written. A path that holds a NUL ends the run. -/
def writingFailure (l : Layer) (output errors : String) : AccessError → Except Failure Printed
  | .refused code path =>
    .ok ⟨1, output, errors ++ fatal ("failed to write " ++ layerWord l ++ " files: "
      ++ (AccessError.refused code path).message)⟩
  | .nulInPath => .error (.access .nulInPath)

/-- Only a repository needs packages. One that is missing is noticed when the directory has been
made. -/
def generateLayer (l : Layer) (r : Request) (e : Extraction) (d : Disk) :
    Except Failure Printed × Disk :=
  match r.settings.options? with
  | none => (.error .missingPath, d)
  | some options =>
    let output := parsedLine r.source e.services
      ++ if d.isDirectory options.directory then "" else creatingLine options.directory
    let errors := extractionLog r.settings.verbose e
    match l, r.settings.packages? with
    | .persistence, none =>
      match d.makeDirectories (l.directory options).toList with
      | (none, d) => (.error .missingPackage, d)
      | (some error, d) => (writingFailure l output errors error, d)
    | l, _ =>
      let g := generate l e.services options d
      let errors := errors ++ warningText g.warnings
      let result := match g.result with
        | .ok w =>
          .ok ⟨0, output ++ String.join (w.generated.map (generatedLine l)),
            errors ++ String.join (w.skipped.map (skippedLine l))⟩
        | .error error => writingFailure l output errors error
      (result, g.disk)

/-- A failure that is not reported ends the run without an exit status. -/
def runRequest (c : Compiler) (r : Request) (d : Disk) (decoder : Descriptor.Decoder := .wire) :
    Except Failure Printed × Disk :=
  match extract c r d decoder with
  | (.error failure, d) =>
    (if failure.reported then .ok ⟨1, "", fatal failure.message⟩ else .error failure, d)
  | (.ok e, d) =>
    match r.command with
    | .describe => (describe r e, d)
    | .generate l => generateLayer l r e d

def run (c : Compiler) (arguments : List String) (d : Disk)
    (decoder : Descriptor.Decoder := .wire) : Except Failure Printed × Disk :=
  match Request.ofArguments arguments with
  | .error .help => (.ok ⟨0, usage, ""⟩, d)
  | .error .misuse => (.ok ⟨2, "", usage⟩, d)
  | .ok r => runRequest c r d decoder

end ServiceScaffold.Cli

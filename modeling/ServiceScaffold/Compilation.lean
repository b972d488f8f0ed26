import ServiceScaffold.Extraction
import ServiceScaffold.Model.Distinct
import ServiceScaffold.Shell.Run

/-!
# Services by way of a schema compiler

A schema can be handed to a compiler, which writes a set of compiled files. The compiler is a
parameter: anything that takes a disk and arguments and tells how it ended. `scriptCompiler` is
one that runs a script of the name `protoc`; it is for runs of the program on a disk that has one,
and no theorem is about it.
-/
namespace ServiceScaffold
open Files

/-- How an attempt to run a program ended. -/
inductive Launch where
  | missing
  | refused (code : ErrorCode)
  | ended (status : Nat) (complaint : Bytes) (disk : Disk)

abbrev Compiler := Disk → List String → Launch

namespace Compilation

/-- The directory that the compiler writes to. It exists only while the compiler runs. -/
def outputDirectory : Location := ["tmp", "compiled-schema"]

def outputPath : String := "/tmp/compiled-schema/descriptor_set.pb"

def currentPath (d : Disk) : String := "/" ++ "/".intercalate d.current

/-- Where the compiler looks for imported files: in the directory of the schema first, then in
those given, each once. -/
def searchPaths (d : Disk) (path : String) (includePaths : List String) : List String :=
  let absolute := Path.absolute (currentPath d)
  Model.firsts id (Path.parent (absolute path) :: includePaths.map absolute)

def arguments (d : Disk) (path : String) (includePaths : List String) : List String :=
  ["--include_imports", "--descriptor_set_out=" ++ outputPath]
    ++ (searchPaths d path includePaths).flatMap (fun p => ["-I", p])
    ++ [Path.absolute (currentPath d) path]

/-- What a compiler complains of, as a text without blank characters at its ends. Bytes that are
no text are left out. -/
def complaintText (complaint : Bytes) : String :=
  String.ofList (Text.trim (Text.Utf8.decodeLossy complaint))

def noSuchFile (path : String) : Failure := .unreadable path "No such file"

/-- The compiled set of a schema and of all that it imports, and the disk left. No program can be
given an argument that holds a NUL. -/
def compile (c : Compiler) (d : Disk) (path : String) (includePaths : List String) :
    Except Failure Bytes × Disk :=
  if !d.isFile path then (.error (noSuchFile path), d)
  else if (arguments d path includePaths).any Disk.hasNul then (.error (.access .nulInPath), d)
  else
    match c (d.put outputDirectory .directory) (arguments d path includePaths) with
    | .missing => (.error .noCompiler, d)
    | .refused code => (.error (.access (.refused code "protoc")), d)
    | .ended status complaint after =>
      let result :=
        if status = 0 then (after.read outputPath).mapError .access
        else .error (.compilation (complaintText complaint))
      (result, after.remove outputDirectory)

def extract (c : Compiler) (d : Disk) (path : String) (includePaths : List String)
    (decoder : Descriptor.Decoder := .wire) : Except Failure Extraction × Disk :=
  match compile c d path includePaths with
  | (.error failure, d) => (.error failure, d)
  | (.ok bs, d) => (Extraction.ofSet bs (Path.base path) path decoder, d)

/-! ## Scripts as compilers -/

def programName : String := "protoc"

/-- The interpreters of shell scripts. -/
def interpreters : List String := ["/bin/sh", "/bin/bash", "/bin/dash"]

def isGap (c : Char) : Bool := c = ' ' || c = '\t'

/-- The program that the first line of a script names as its interpreter, options left out. -/
def interpreter? : List Char → Option String
  | '#' :: '!' :: cs =>
    match ((cs.takeWhile (· ≠ '\n')).dropWhile isGap).takeWhile (!isGap ·) with
    | [] => none
    | program => some (String.ofList program)
  | _ => none

/-- Runs the executable script of the compiler's name in a directory. No theorem is about it. -/
def scriptCompiler (directory : Location) : Compiler := fun d arguments =>
  match d.at? directory with
  | none => .missing
  | some (.file _ _) => .refused .notDirectory
  | some .directory =>
    match d.at? (directory ++ [programName]) with
    | none => .missing
    | some (.file contents true) =>
      let text := Text.Utf8.decodeLossy contents
      match interpreter? text with
      | none => .refused .badFormat
      | some program =>
        if program ∈ interpreters then
          let s := Shell.runScript text arguments d
          .ended s.status s.complaint s.disk
        else .missing
    | some _ => .refused .permissionDenied

end Compilation

end ServiceScaffold

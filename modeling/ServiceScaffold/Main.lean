import ServiceScaffold.Cli.Run

/-!
# The program

`main` loads what its command line can reach of the file system into a disk, lets `Cli.run`
decide everything on that disk, and hands on the outcome: it prints, makes the directories and
files that are new, and exits with the status. No compiler is started.
-/
namespace ServiceScaffold.Program
open Files

/-- The locations that a path leads through, from the one it starts at. -/
def trail (l : Location) : List String → List Location
  | [] => []
  | name :: names =>
    let next := (Disk.step l name).toOption.getD l
    next :: trail next names

/-- The locations that a path leads through from the current directory. -/
def along (current : Location) (path : String) : List Location :=
  trail (if Path.isAbsolute path then [] else current) (Path.names path)

/-- The directory that a request writes to; none is empty. -/
def outputDirectory (r : Cli.Request) : String :=
  match r.command with
  | .generate l => (r.settings.options?.map l.directory).getD ""
  | .describe => ""

/-- What a request can reach: the current directory, its source, and its directory with the
entries of the given names in it. -/
def reached (current : Location) (r : Cli.Request) (names : List String) : List Location :=
  let passed := along current (outputDirectory r)
  trail [] current ++ passed ++ names.map (passed.getLast?.getD current ++ [·])
    ++ along current r.source

/-- The entries that `after` has and `before` has not, in the order of their making. -/
def added (before after : Disk) : List (Location × Entry) :=
  after.entries.reverse.filter fun p => (before.at? p.1).isNone

def pathText (l : Location) : String := "/" ++ "/".intercalate l

/-! ## The file system -/

def loadEntry (l : Location) : IO (Option Entry) := do
  match ← (IO.FS.realPath (pathText l)).toBaseIO with
  | .error _ => return none
  | .ok path =>
    if ← path.isDir then return some .directory
    match ← (IO.FS.readBinFile path).toBaseIO with
    | .ok bytes => return some (.file bytes.toList false)
    | .error _ => return none

def load (d : Disk) (l : Location) : IO Disk := do
  match ← loadEntry l with
  | some e => return if l = [] then d else d.put l e
  | none => return d

def namesIn (directory : String) : IO (List String) := do
  match ← (IO.FS.realPath directory).toBaseIO with
  | .ok path => if ← path.isDir then return (← path.readDir).toList.map (·.fileName) else return []
  | .error _ => return []

def currentLocation : IO Location := do
  return Path.names (← IO.currentDir).toString

def loadFor (r : Cli.Request) : IO Disk := do
  let current ← currentLocation
  let names ← namesIn (outputDirectory r)
  (reached current r names).foldlM load ⟨[], current⟩

/-- Makes what is new. What has come to exist meanwhile is left alone. -/
def store : Location × Entry → IO Unit
  | (l, .directory) => IO.FS.createDir (pathText l)
  | (l, .file bytes _) => do
    let handle ← IO.FS.Handle.mk (pathText l) .writeNew
    handle.write ⟨bytes.toArray⟩

def finish (before : Disk) : Except Failure Cli.Printed × Disk → IO UInt32
  | (result, after) => do
    (added before after).forM store
    match result with
    | .ok printed =>
      IO.print printed.output
      IO.eprint printed.errors
      return printed.status.toUInt32
    | .error failure =>
      IO.eprintln failure.message
      return 1

def start (arguments : List String) : IO UInt32 := do
  let disk ← match Cli.Request.ofArguments arguments with
    | .ok r => loadFor r
    | .error _ => pure ⟨[], []⟩
  finish disk (Cli.run (fun _ _ => .missing) arguments disk)

end ServiceScaffold.Program

def main (arguments : List String) : IO UInt32 :=
  ServiceScaffold.Program.start arguments

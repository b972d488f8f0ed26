import ServiceScaffold.Files.Path
import ServiceScaffold.Text.Quoted
import ServiceScaffold.Text.Utf8

/-!
# Files and directories

A `Disk` is a tree of directories and files together with the directory from which relative
paths start. Paths are followed segment by segment: every segment but the last has to name a
directory, and `..` leads to the directory above the one reached. Nothing here replaces a file:
`create` fails where something stands already.
-/
namespace ServiceScaffold.Files

inductive ErrorCode where
  | noEntry
  | badFormat
  | permissionDenied
  | exists
  | notDirectory
  | isDirectory
  | nameTooLong
  deriving DecidableEq, Repr

namespace ErrorCode

def number : ErrorCode → Nat
  | noEntry => 2
  | badFormat => 8
  | permissionDenied => 13
  | «exists» => 17
  | notDirectory => 20
  | isDirectory => 21
  | nameTooLong => 36

def text : ErrorCode → String
  | noEntry => "No such file or directory"
  | badFormat => "Exec format error"
  | permissionDenied => "Permission denied"
  | «exists» => "File exists"
  | notDirectory => "Not a directory"
  | isDirectory => "Is a directory"
  | nameTooLong => "File name too long"

end ErrorCode

/-- Why an operation on a path failed: the system refused it, or the path holds a NUL and was
never handed over. -/
inductive AccessError where
  | refused (code : ErrorCode) (path : String)
  | nulInPath
  deriving DecidableEq, Repr

def AccessError.message : AccessError → String
  | .refused code path =>
    "[Errno " ++ toString code.number ++ "] " ++ code.text ++ ": " ++ Text.quoted path
  | .nulInPath => "embedded null byte"

inductive Entry where
  | directory
  | file (contents : Bytes) (executable : Bool)
  deriving DecidableEq, Repr

/-- The names that lead from the root to an entry. -/
abbrev Location := List String

structure Disk where
  entries : List (Location × Entry)
  current : Location
  deriving Repr

namespace Disk

/-- What stands at a location. The root is always a directory. -/
def at? (d : Disk) (l : Location) : Option Entry :=
  if l = [] then some .directory
  else (d.entries.find? (·.1 = l)).map Prod.snd

def put (d : Disk) (l : Location) (e : Entry) : Disk :=
  { d with entries := (l, e) :: d.entries.filter (·.1 ≠ l) }

/-- Takes away what stands at a location and below it. -/
def remove (d : Disk) (l : Location) : Disk :=
  { d with entries := d.entries.filter fun p => !l.isPrefixOf p.1 }

theorem at?_put_self (d : Disk) {l : Location} (h : l ≠ []) (e : Entry) :
    (d.put l e).at? l = some e := by
  simp [at?, put, h]

theorem at?_put_of_ne (d : Disk) {l m : Location} (h : m ≠ l) (e : Entry) :
    (d.put l e).at? m = d.at? m := by
  have same : ∀ es : List (Location × Entry),
      (es.filter (·.1 ≠ l)).find? (·.1 = m) = es.find? (·.1 = m) := by
    intro es
    induction es with
    | nil => rfl
    | cons p es ih =>
      by_cases hl : p.1 = l
      · have hm : p.1 ≠ m := fun e => h (e.symm.trans hl)
        simpa [hl, hm, Ne.symm h] using ih
      · simp only [List.filter_cons, hl, ne_eq, not_false_eq_true, decide_true, if_true,
          List.find?_cons, ih]
  unfold at? put
  split
  · rfl
  · rw [List.find?_cons_of_neg (by simpa using h.symm), same]

/-! ## Following paths -/

def nameLimit : Nat := 255

def pathLimit : Nat := 4095

/-- The location of a name in a directory, when it may be one. -/
def child (l : Location) (name : String) : Except ErrorCode Location :=
  if nameLimit < name.utf8ByteSize then .error .nameTooLong else .ok (l ++ [name])

/-- Where a segment of a path leads from a directory. -/
def step (l : Location) (name : String) : Except ErrorCode Location :=
  if name = "." then .ok l
  else if name = ".." then .ok l.dropLast
  else child l name

/-- Follows names from one directory to another. -/
def follow (d : Disk) (l : Location) : List String → Except ErrorCode Location
  | [] => .ok l
  | name :: names => do
    let next ← step l name
    match d.at? next with
    | some .directory => d.follow next names
    | some (.file _ _) => .error .notDirectory
    | none => .error .noEntry

def origin (d : Disk) (path : String) : Location :=
  if Path.isAbsolute path then [] else d.current

/-- Where a path leads: to a directory known to exist, or to a name in one. -/
inductive Target where
  | known (l : Location)
  | named (directory : Location) (name : String)
  deriving DecidableEq, Repr

def target (d : Disk) (path : String) : Except ErrorCode Target :=
  if path = "" then .error .noEntry
  else if pathLimit < path.utf8ByteSize then .error .nameTooLong
  else
    match (Path.names path).reverse with
    | [] => .ok (.known (d.origin path))
    | last :: before => do
      let directory ← d.follow (d.origin path) before.reverse
      if last = "." ∨ last = ".." then pure (.known (← step directory last))
      else pure (.named directory last)

def Target.location : Target → Except ErrorCode Location
  | .known l => .ok l
  | .named directory name => child directory name

/-- Where a path leads to, whether or not something stands there. -/
def locate (d : Disk) (path : String) : Except ErrorCode Location := do
  (← d.target path).location

def endsInSlash (path : String) : Bool :=
  path.toList.getLast? = some '/'

/-- What stands at a path. A slash at the end asks for a directory. -/
def status (d : Disk) (path : String) : Except ErrorCode (Location × Entry) := do
  let l ← d.locate path
  match d.at? l with
  | none => .error .noEntry
  | some .directory => pure (l, .directory)
  | some (.file bs x) =>
    if endsInSlash path then .error .notDirectory else pure (l, .file bs x)

def hasNul (path : String) : Bool :=
  path.toList.contains '\x00'

def isDirectory (d : Disk) (path : String) : Bool :=
  match d.status path with
  | .ok (_, .directory) => !hasNul path
  | _ => false

def isFile (d : Disk) (path : String) : Bool :=
  match d.status path with
  | .ok (_, .file _ _) => !hasNul path
  | _ => false

def pathExists (d : Disk) (path : String) : Bool :=
  match d.status path with
  | .ok _ => !hasNul path
  | _ => false

/-! ## Reading -/

/-- The contents of the file at a path, whose `.` and empty segments do not count, so that a
slash at the end is no bar. -/
def read (d : Disk) (path : String) : Except AccessError Bytes :=
  let names := (Path.names path).filter (· ≠ ".")
  let plain := (if Path.isAbsolute path then "/" else "") ++ "/".intercalate names
  if hasNul path then .error .nulInPath
  else match d.status (if plain = "" then "." else plain) with
    | .ok (_, .file bs _) => .ok bs
    | .ok (_, .directory) => .error (.refused .isDirectory path)
    | .error code => .error (.refused code path)

/-! ## Creating -/

/-- Puts an entry in a directory under a name that is free. -/
def add (d : Disk) (path : String) (directory : Location) (name : String) (e : Entry) :
    Except AccessError Disk :=
  match child directory name with
  | .error code => .error (.refused code path)
  | .ok l =>
    match d.at? l with
    | some _ => .error (.refused .exists path)
    | none => .ok (d.put l e)

/-- A new file with the given contents. -/
def create (d : Disk) (path : String) (contents : Bytes) : Except AccessError Disk :=
  if hasNul path then .error .nulInPath
  else match d.target path with
    | .error code => .error (.refused code path)
    | .ok (.known _) => .error (.refused .exists path)
    | .ok (.named directory name) =>
      if endsInSlash path then .error (.refused .isDirectory path)
      else d.add path directory name (.file contents false)

/-- A new directory in one that exists. -/
def makeDirectory (d : Disk) (path : String) : Except AccessError Disk :=
  if hasNul path then .error .nulInPath
  else match d.target path with
    | .error code => .error (.refused code path)
    | .ok (.known _) => .error (.refused .exists path)
    | .ok (.named directory name) => d.add path directory name .directory

/-- The directory at a path, made unless it exists already. -/
def ensureDirectory (d : Disk) (path : String) : Option AccessError × Disk :=
  match d.makeDirectory path with
  | .ok d => (none, d)
  | .error e =>
    match e with
    | .refused _ _ => if d.isDirectory path then (none, d) else (some e, d)
    | .nulInPath => (some e, d)

/-- A path cut before its last name, a slash at the end not counted: the head and that name. -/
def splitPath (path : List Char) : List Char × List Char :=
  let tail := Text.afterLast '/' path
  if tail ≠ [] then (Path.headOf path, tail)
  else (Path.headOf (Path.headOf path), Text.afterLast '/' (Path.headOf path))

theorem splitPath_length {path : List Char} (h : (splitPath path).2 ≠ []) :
    (splitPath path).1.length < path.length := by
  have bound : ∀ p : List Char, Text.afterLast '/' p ≠ [] →
      (Path.headOf p).length < p.length := by
    intro p hp
    have h1 := Path.headOf_length_le p
    have h2 := List.length_pos_iff.2 hp
    have h3 := (Text.afterLast_suffix '/' p).length_le
    omega
  unfold splitPath at h ⊢
  simp only at h ⊢
  split at h
  · next ht => simpa [ht] using bound path ht
  · next ht =>
    have h1 := Path.headOf_length_le path
    have h2 := bound _ h
    simp only [ht, if_false]
    omega

/-- The directory at a path, made with all that leads to it. Something that stands in the way of
a directory above it shows only at the directory itself, and what has been made before a failure
stays. -/
def makeDirectories (d : Disk) (path : List Char) : Option AccessError × Disk :=
  let head := (splitPath path).1
  if _h : (splitPath path).2 ≠ [] ∧ head ≠ [] ∧ d.pathExists (String.ofList head) = false then
    match d.makeDirectories head with
    | (none, d) => finish d
    | (some (.refused .exists _), d) => finish d
    | failed => failed
  else d.ensureDirectory (String.ofList path)
termination_by path.length
decreasing_by exact splitPath_length _h.1
where
  finish (d : Disk) : Option AccessError × Disk :=
    if (splitPath path).2 = ['.'] then (none, d) else d.ensureDirectory (String.ofList path)

end Disk

end ServiceScaffold.Files

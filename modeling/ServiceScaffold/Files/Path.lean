import ServiceScaffold.Text.Segment

/-!
# Paths as texts

Paths are texts whose segments a slash separates. The functions here treat them as texts only,
without a look at any file: joining, splitting at the last slash, and the shortest form of a
path, in which `.` and empty segments are dropped and `..` takes the segment before it away.
-/
namespace ServiceScaffold.Files.Path
open Text

def isAbsolute (path : String) : Bool :=
  path.toList.head? = some '/'

/-- The segments of a path that name something. -/
def names (path : String) : List String :=
  ((segments '/' path.toList).filter (· ≠ [])).map String.ofList

/-- What stands behind the last slash. -/
def base (path : String) : String :=
  String.ofList (afterLast '/' path.toList)

/-- What stands up to the last slash, without the slashes at its end unless there is nothing
else. -/
def headOf (path : List Char) : List Char :=
  let upTo := path.take (path.length - (afterLast '/' path).length)
  let stripped := (upTo.reverse.dropWhile (· = '/')).reverse
  if stripped = [] then upTo else stripped

def parent (path : String) : String :=
  String.ofList (headOf path.toList)

/-- A path below a directory; an absolute path stands for itself. -/
def join (directory path : String) : String :=
  if isAbsolute path then path
  else if directory = "" ∨ directory.toList.getLast? = some '/' then directory ++ path
  else directory ++ "/" ++ path

/-- Two leading slashes are kept as they are, three or more count as one. -/
def leadingSlashes (path : String) : String :=
  match path.toList with
  | '/' :: '/' :: '/' :: _ => "/"
  | '/' :: '/' :: _ => "//"
  | '/' :: _ => "/"
  | _ => ""

/-- The segments kept, last first, when `name` follows them. -/
def pushName (absolute : Bool) (kept : List String) (name : String) : List String :=
  if name = "." then kept
  else if name ≠ ".." then name :: kept
  else match kept with
    | [] => if absolute then [] else [".."]
    | last :: older => if last = ".." then ".." :: kept else older

def normal (path : String) : String :=
  let kept := ((names path).foldl (pushName (isAbsolute path)) []).reverse
  let text := leadingSlashes path ++ "/".intercalate kept
  if text = "" then "." else text

/-- The shortest absolute form of a path seen from a directory. -/
def absolute (current path : String) : String :=
  normal (join current path)

theorem headOf_length_le (path : List Char) :
    (headOf path).length ≤ path.length - (afterLast '/' path).length := by
  unfold headOf
  simp only
  split
  · simp only [List.length_take]
    omega
  · have := (List.dropWhile_suffix (l := (path.take (path.length
      - (afterLast '/' path).length)).reverse) (· = '/')).length_le
    simp only [List.length_reverse, List.length_take] at this ⊢
    omega

end ServiceScaffold.Files.Path

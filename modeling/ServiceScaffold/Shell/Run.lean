import ServiceScaffold.Files.Disk
import ServiceScaffold.Shell.Script

/-!
# Running scripts

What a script does to the disk, what it writes to its error output, and its exit status. Of
programs there are `echo`, `printf`, `exit`, `true`, `false`, `:`, `/bin/cat` and `/bin/cp`; for
any other the status is 127. Like the language, this serves runs of the program only, and no theorem
speaks of it.
-/
namespace ServiceScaffold.Shell
open Files

structure State where
  bindings : List (String × String)
  arguments : List String
  disk : Disk
  complaint : Bytes
  status : Nat
  exited : Bool

/-! ## Patterns -/

inductive Glob where
  | any
  | one
  | char (c : Char)
  deriving DecidableEq, Repr

def matchesGlob : List Glob → List Char → Bool
  | [], [] => true
  | [], _ :: _ => false
  | .any :: ps, [] => matchesGlob ps []
  | .any :: ps, c :: cs => matchesGlob ps (c :: cs) || matchesGlob (.any :: ps) cs
  | .one :: ps, _ :: cs => matchesGlob ps cs
  | .char d :: ps, c :: cs => c = d && matchesGlob ps cs
  | _ :: _, [] => false
termination_by ps cs => ps.length + cs.length

def globOf (c : Char) : Glob :=
  if c = '*' then .any else if c = '?' then .one else .char c

/-- A text without the shortest start that matches. -/
def stripStart (pattern : List Glob) (s : List Char) : List Char :=
  match (List.range (s.length + 1)).find? fun n => matchesGlob pattern (s.take n) with
  | some n => s.drop n
  | none => s

/-! ## Expansion -/

def State.value (s : State) (name : String) : String :=
  match name.toNat? with
  | some n => if n = 0 then "" else (s.arguments[n - 1]?).getD ""
  | none => ((s.bindings.find? (·.1 = name)).map Prod.snd).getD ""

def State.assign (s : State) (name value : String) : State :=
  { s with bindings := (name, value) :: s.bindings.filter (·.1 ≠ name) }

/-- A word as a pattern, in which only unquoted characters are special. -/
def State.pattern (s : State) : Word → List Glob
  | [] => []
  | p :: ps =>
    (match p with
    | .text quoted c => [if quoted then .char c else globOf c]
    | .nothing => []
    | .arguments => (" ".intercalate s.arguments).toList.map .char
    | .variable quoted name =>
      (s.value name).toList.map fun c => if quoted then .char c else globOf c
    | .stripped quoted name inner =>
      (stripStart (s.pattern inner) (s.value name).toList).map fun c =>
        if quoted then .char c else globOf c)
    ++ s.pattern ps

/-- A word as a text. -/
def State.text (s : State) (w : Word) : List Char :=
  w.flatMap fun
    | .text _ c => [c]
    | .nothing => []
    | .arguments => (" ".intercalate s.arguments).toList
    | .variable _ name => (s.value name).toList
    | .stripped _ name inner => stripStart (s.pattern inner) (s.value name).toList

/-- The texts that a word stands for, which are several for the arguments of the script. -/
def State.texts (s : State) (w : Word) : List String :=
  match w.filter (fun | .nothing => false | _ => true) with
  | [.arguments] => s.arguments
  | _ => [String.ofList (s.text w)]

/-! ## Output -/

def octal (cs : List Char) : UInt8 :=
  UInt8.ofNat (cs.foldl (fun n c => 8 * n + (c.toNat - '0'.toNat)) 0)

def isOctal (c : Char) : Bool := '0' ≤ c && c ≤ '7'

/-- The bytes of a text with its escapes read. With `directives`, `%s` takes the next argument and
`%%` is a percent sign. -/
def formatted (directives : Bool) (arguments : List String) : (steps : Nat) → List Char → Bytes
  | 0, _ => []
  | _, [] => []
  | n + 1, c :: cs =>
    let onward := formatted directives arguments n
    if c = '\\' then
      let digits := (cs.takeWhile isOctal).take 3
      if !digits.isEmpty then octal digits :: onward (cs.drop digits.length)
      else
        match cs with
        | 'n' :: ds => 10 :: onward ds
        | 't' :: ds => 9 :: onward ds
        | 'r' :: ds => 13 :: onward ds
        | '\\' :: ds => 92 :: onward ds
        | _ => 92 :: onward cs
    else if directives && c = '%' then
      match cs with
      | 's' :: ds =>
        Text.Utf8.encode (arguments.head?.getD "")
          ++ formatted directives arguments.tail n ds
      | '%' :: ds => 37 :: onward ds
      | _ => 37 :: onward cs
    else String.utf8EncodeChar c ++ onward cs

def unescaped (text : String) : Bytes :=
  formatted false [] text.length text.toList

def format (text : String) (arguments : List String) : Bytes :=
  formatted true arguments text.length text.toList

/-- Adds output to a file, which is made when it is missing. -/
def State.writeFile (s : State) (append : Bool) (path : String) (output : Bytes) : State :=
  match s.disk.locate path with
  | .ok l =>
    match s.disk.at? l with
    | some .directory => { s with status := 1 }
    | some (.file old executable) =>
      { s with disk := s.disk.put l (.file ((if append then old else []) ++ output) executable) }
    | none => { s with disk := s.disk.put l (.file output false) }
  | .error _ => { s with status := 1 }

/-- Puts output where the last sink says; the files of the sinks before it are made all the
same. -/
def State.send (s : State) (output : Bytes) : List Sink → State
  | [] => s
  | [.complaint] => { s with complaint := s.complaint ++ output }
  | [.file append path] => s.writeFile append (String.ofList (s.text path)) output
  | .complaint :: sinks => s.send output sinks
  | .file append path :: sinks =>
    (s.writeFile append (String.ofList (s.text path)) []).send output sinks

/-! ## Programs -/

def State.complain (s : State) (text : String) : State :=
  { s with status := 1, complaint := s.complaint ++ Text.Utf8.encode (text ++ "\n") }

def reason : AccessError → String
  | .refused code _ => code.text
  | .nulInPath => "Invalid argument"

def State.copy (s : State) (source target : String) : State :=
  match s.disk.read source with
  | .error e => s.complain ("/bin/cp: cannot stat '" ++ source ++ "': " ++ reason e)
  | .ok contents => { s with status := 0 }.writeFile false target contents

def State.invoke (s : State) (words : List String) (sinks : List Sink) : State :=
  let succeed (output : Bytes) : State := { s with status := 0 }.send output sinks
  match words with
  | [] => succeed []
  | ["exit"] => { s with exited := true }
  | ["exit", code] => { s with exited := true, status := code.toNat?.getD 2 % 256 }
  | "echo" :: "-n" :: texts => succeed (unescaped (" ".intercalate texts))
  | "echo" :: texts => succeed (unescaped (" ".intercalate texts) ++ [10])
  | "printf" :: text :: arguments => succeed (format text arguments)
  | "true" :: _ => succeed []
  | ":" :: _ => succeed []
  | "false" :: _ => { (succeed []) with status := 1 }
  | ["/bin/cp", source, target] => (succeed []).copy source target
  | ["/bin/cat", source] =>
    match s.disk.read source with
    | .ok contents => succeed contents
    | .error e => (succeed []).complain ("/bin/cat: " ++ source ++ ": " ++ reason e)
  | _ => { s with status := 127 }

mutual

def Command.run (s : State) : Command → State
  | .simple assignments words sinks =>
    let s := assignments.foldl (fun s (name, w) => s.assign name (String.ofList (s.text w))) s
    s.invoke (words.flatMap s.texts) sinks
  | .forEach name words body =>
    (words.flatMap s.texts).foldl
      (fun s text => if s.exited then s else runAll (s.assign name text) body) s
  | .choose subject branches => runBranches s (s.text subject) branches
  | .after success command =>
    if (s.status = 0) = success then command.run s else s

def runAll (s : State) : List Command → State
  | [] => s
  | c :: cs => if s.exited then s else runAll (c.run s) cs

def runBranches (s : State) (subject : List Char) : List (List Word × List Command) → State
  | [] => { s with status := 0 }
  | (patterns, body) :: branches =>
    if patterns.any fun p => matchesGlob (s.pattern p) subject then runAll s body
    else runBranches s subject branches

end

/-! ## Whole scripts -/

def runScript (text : List Char) (arguments : List String) (d : Disk) : State :=
  runAll
    { bindings := [("PWD", "/" ++ "/".intercalate d.current)]
      arguments := arguments
      disk := d
      complaint := []
      status := 0
      exited := false }
    (readScript text)

end ServiceScaffold.Shell

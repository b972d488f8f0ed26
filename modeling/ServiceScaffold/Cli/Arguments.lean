import ServiceScaffold.Generation
import ServiceScaffold.Text.Digit

/-!
# Command lines

`Request.ofArguments` reads the arguments of a command line. Long options may be shortened as
far as they stay unambiguous and take a value behind an equals sign or as the next argument;
short ones may be run together, and the last of them takes the rest as its value. Arguments that
start with a dash are still plain when they are a lone dash, a negative number, or no option and
have a space in them. Everything behind `--` is plain, and `--` where a value is wanted stands
for none.
-/
namespace ServiceScaffold.Cli

/-! ## Options -/

inductive Switch where
  | help
  | descriptor
  | protoc
  | includePath
  | verbose
  | targetDirectory
  | useLogger
  | noUseLogger
  | domainPackage
  | protoPackage
  | databasePackage
  | cachePackage
  deriving DecidableEq, Repr

def Switch.takesValue : Switch → Bool
  | includePath => true
  | targetDirectory => true
  | domainPackage => true
  | protoPackage => true
  | databasePackage => true
  | cachePackage => true
  | _ => false

abbrev Spellings := List (String × Switch)

def helpSpellings : Spellings :=
  [("-h", .help), ("--help", .help)]

def sourceSpellings : Spellings :=
  helpSpellings ++ [("--descriptor", .descriptor), ("--protoc", .protoc), ("-I", .includePath),
    ("--include", .includePath), ("-v", .verbose), ("--verbose", .verbose)]

def layerSpellings : Spellings :=
  sourceSpellings ++ [("-t", .targetDirectory), ("--target-dir", .targetDirectory),
    ("--use-logger", .useLogger), ("--no-use-logger", .noUseLogger)]

def packageSpellings : Spellings :=
  layerSpellings ++ [("-d", .domainPackage), ("--domain-pkg", .domainPackage),
    ("-p", .protoPackage), ("--proto-pkg", .protoPackage), ("-b", .databasePackage),
    ("--db-pkg", .databasePackage), ("-c", .cachePackage), ("--cache-pkg", .cachePackage)]

/-! ## Single arguments -/

/-- An argument by itself. What is attached to an option is the text that stands in the same
argument, behind an equals sign or behind a short option. -/
inductive Argument where
  | plain (text : String)
  | dashes
  | unknown
  | option (spelling : String) (switch : Switch) (attached : Option String)
  deriving DecidableEq, Repr

/-- How a command line can fail to be a request. -/
inductive Refusal where
  | help
  | misuse
  deriving DecidableEq, Repr

def isLong (spelling : String) : Bool :=
  match spelling.toList with
  | '-' :: '-' :: _ => true
  | _ => false

/-- The text before the first equals sign and, where there is one, the text behind it. -/
def splitAtEquals (s : List Char) : String × Option String :=
  (String.ofList (s.takeWhile (· ≠ '=')),
    match s.dropWhile (· ≠ '=') with
    | [] => none
    | _ :: value => some (String.ofList value))

/-- The options that an argument may abbreviate or, of a short one, start with. -/
def candidates (known : Spellings) (s : List Char) : List Argument :=
  if isLong (String.ofList s) then
    let (start, attached) := splitAtEquals s
    (known.filter fun k => start.toList.isPrefixOf k.1.toList).map fun k =>
      .option k.1 k.2 attached
  else
    (known.filter fun k => k.1.toList = s.take 2).map fun k =>
      .option k.1 k.2 (some (String.ofList (s.drop 2)))

/-- A text without the line feed that it may end in. -/
def withoutLineFeed (s : List Char) : List Char :=
  if s.getLast? = some '\n' then s.dropLast else s

/-- An integer or a decimal fraction with a minus sign; a line feed may follow it. -/
def isNegativeNumber : List Char → Bool
  | '-' :: s =>
    let s := withoutLineFeed s
    match s.dropWhile Text.isDecimal with
    | [] => !s.isEmpty
    | '.' :: fraction => !fraction.isEmpty && fraction.all Text.isDecimal
    | _ => false
  | _ => false

def spelled? (known : Spellings) (spelling : String) (attached : Option String) :
    Option Argument :=
  (known.find? (·.1 = spelling)).map fun k => .option k.1 k.2 attached

def Argument.ofText (known : Spellings) (text : String) : Except Refusal Argument :=
  let s := text.toList
  if s.head? ≠ some '-' then .ok (.plain text)
  else
    let (start, attached) := splitAtEquals s
    match (spelled? known text none).or
        (if s.length = 1 then some (.plain text)
        else if attached.isSome then spelled? known start attached else none) with
    | some a => .ok a
    | none =>
      match candidates known s with
      | _ :: _ :: _ => .error .misuse
      | [a] => .ok a
      | [] =>
        if isNegativeNumber s || s.contains ' ' then .ok (.plain text) else .ok .unknown

/-- All arguments; those behind two dashes are plain. -/
def classify (known : Spellings) : List String → Except Refusal (List Argument)
  | [] => .ok []
  | "--" :: rest => .ok (.dashes :: rest.map .plain)
  | text :: rest => do
    let head ← Argument.ofText known text
    let tail ← classify known rest
    pure (head :: tail)

/-! ## Settings -/

/-- What the options of a command line say. An option that takes a value may stand without one,
and what it sets is then missing. -/
structure Settings where
  fromDescriptor : Bool
  viaCompiler : Bool
  includePaths : List (Option String)
  verbose : Bool
  logged : Bool
  directory : Option String
  domainPackage : Option String
  protoPackage : Option String
  databasePackage : Option String
  cachePackage : Option String
  deriving DecidableEq, Repr

namespace Settings

def initial (directory : String) : Settings :=
  let packages := Options.default.packages
  ⟨false, false, [], false, Options.default.logged, some directory, some packages.domain,
    some packages.proto, some packages.database, some packages.cache⟩

def apply (s : Settings) (switch : Switch) (value : Option String) : Except Refusal Settings :=
  match switch with
  | .help => .error .help
  | .descriptor =>
    if s.viaCompiler then .error .misuse else .ok { s with fromDescriptor := true }
  | .protoc =>
    if s.fromDescriptor then .error .misuse else .ok { s with viaCompiler := true }
  | .includePath => .ok { s with includePaths := s.includePaths ++ [value] }
  | .verbose => .ok { s with verbose := true }
  | .targetDirectory => .ok { s with directory := value }
  | .useLogger => .ok { s with logged := true }
  | .noUseLogger => .ok { s with logged := false }
  | .domainPackage => .ok { s with domainPackage := value }
  | .protoPackage => .ok { s with protoPackage := value }
  | .databasePackage => .ok { s with databasePackage := value }
  | .cachePackage => .ok { s with cachePackage := value }

/-- The packages of a repository, where none that it needs is missing. It can do without that of
the schema. -/
def packages? (s : Settings) : Option Skeleton.Persistence.Packages := do
  pure ⟨← s.domainPackage, s.protoPackage.getD "", ← s.databasePackage, ← s.cachePackage⟩

/-- What is generated, where a directory is named; packages that are missing are the default
ones. -/
def options? (s : Settings) : Option Options :=
  s.directory.map fun directory =>
    ⟨directory, s.packages?.getD Options.default.packages, s.logged⟩

def includePaths? (s : Settings) : Option (List String) :=
  s.includePaths.mapM id

end Settings

/-! ## Clusters -/

/-- The switches of one argument: those run together, and one with the text of its value where
that is in the argument too. -/
structure Cluster where
  switches : List Switch
  valued : Option (Switch × Option String)
  deriving DecidableEq, Repr

/-- A switch to which nothing is attached. -/
def Cluster.ofSwitch (switch : Switch) : Cluster :=
  if switch.takesValue then ⟨[], some (switch, none)⟩ else ⟨[switch], none⟩

/-- Reads a switch and what is attached to it: a value or, behind a short switch that takes none,
the letters of more switches. -/
def Cluster.read (known : Spellings) (long : Bool) (switch : Switch) :
    List Char → Except Refusal Cluster
  | [] => if switch.takesValue then .ok ⟨[], some (switch, some "")⟩ else .error .misuse
  | c :: cs =>
    if switch.takesValue then .ok ⟨[], some (switch, some (String.ofList (c :: cs)))⟩
    else if long then .error .misuse
    else
      match known.find? (·.1.toList = ['-', c]) with
      | none => .error .misuse
      | some (_, next) => do
        let more ← if cs.isEmpty then .ok (.ofSwitch next) else read known false next cs
        pure { more with switches := switch :: more.switches }

def Cluster.ofOption (known : Spellings) (spelling : String) (switch : Switch) :
    Option String → Except Refusal Cluster
  | some attached => read known (isLong spelling) switch attached.toList
  | none => .ok (.ofSwitch switch)

/-- What a text says as a value. -/
def valueOf? (text : String) : Option String :=
  if text = "--" then none else some text

/-! ## Reading -/

/-- What has been read of a command line: its settings, its plain argument, and whether
something was left over. -/
structure Reading where
  settings : Settings
  source : Option String
  leftOver : Bool
  deriving DecidableEq, Repr

def Reading.applyAll (r : Reading) (switches : List Switch) : Except Refusal Reading := do
  let settings ← switches.foldlM (fun s switch => Settings.apply s switch none) r.settings
  pure { r with settings := settings }

def Reading.applyValued (r : Reading) (switch : Switch) (text : String) :
    Except Refusal Reading := do
  let settings ← r.settings.apply switch (valueOf? text)
  pure { r with settings := settings }

def readArguments (known : Spellings) (r : Reading) : List Argument → Except Refusal Reading
  | [] => .ok r
  | .plain text :: rest =>
    if r.source.isSome then readArguments known { r with leftOver := true } rest
    else
      match rest with
      | .dashes :: rest => readArguments known { r with source := some text } rest
      | rest => readArguments known { r with source := some text } rest
  | .dashes :: rest =>
    match r.source, rest with
    | none, .plain text :: rest => readArguments known { r with source := some text } rest
    | _, rest => readArguments known { r with leftOver := true } rest
  | .unknown :: rest => readArguments known { r with leftOver := true } rest
  | .option spelling switch attached :: rest => do
    let c ← Cluster.ofOption known spelling switch attached
    match c.valued, rest with
    | none, rest => readArguments known (← r.applyAll c.switches) rest
    | some (valued, some text), rest =>
      let r ← r.applyAll c.switches
      readArguments known (← r.applyValued valued text) rest
    | some (valued, none), .plain text :: rest =>
      let r ← r.applyAll c.switches
      readArguments known (← r.applyValued valued text) rest
    | some (_, none), _ => .error .misuse

/-! ## Requests -/

inductive Command where
  | generate (layer : Layer)
  | describe
  deriving DecidableEq, Repr

structure Request where
  command : Command
  source : String
  settings : Settings
  deriving DecidableEq, Repr

def commandOf? : String → Option (Command × Spellings × String)
  | "biz" => some (.generate .domain, layerSpellings, Layer.domain.defaultDirectory)
  | "data" => some (.generate .persistence, packageSpellings, Layer.persistence.defaultDirectory)
  | "show" => some (.describe, sourceSpellings, "")
  | _ => none

def Request.ofCommandArguments (name : String) (arguments : List String) :
    Except Refusal Request := do
  match commandOf? name with
  | none => .error .misuse
  | some (command, known, directory) =>
    let arguments ← classify known arguments
    let r ← readArguments known ⟨.initial directory, none, false⟩ arguments
    match r.source, r.leftOver with
    | some source, false => pure ⟨command, source, r.settings⟩
    | _, _ => .error .misuse

/-- The options that stand before the command, where help alone is one. -/
def readLeading (arguments : List String) : Except Refusal Request :=
  match arguments with
  | [] => .error .misuse
  | "--" :: _ => .error .misuse
  | text :: rest => do
    match ← Argument.ofText helpSpellings text with
    | .plain name => Request.ofCommandArguments name rest
    | .dashes => .error .misuse
    | .unknown =>
      let _ ← readLeading rest
      .error .misuse
    | .option spelling switch attached =>
      let c ← Cluster.ofOption helpSpellings spelling switch attached
      let _ ← Reading.applyAll ⟨.initial "", none, false⟩ c.switches
      .error .misuse

def Request.ofArguments (arguments : List String) : Except Refusal Request :=
  readLeading arguments

end ServiceScaffold.Cli

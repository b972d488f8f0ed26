import ServiceScaffold.Text.Digit

/-!
# Shell scripts

The part of the shell's language that small wrapper scripts use: simple commands with
assignments and redirections, commands that depend on how the one before them ended, `for` loops
over given words and `case` distinctions. Words are
made of quoted and unquoted text, variables, the arguments of the script, and variables without
the shortest start that matches a pattern. There is no loop without a bound, so that every script
comes to an end.

The language is here only so that a script on the disk can stand in for a schema compiler when the
program is run. What is proved of the program is proved of every compiler and looks at no script.
-/
namespace ServiceScaffold.Shell

inductive Part where
  | text (quoted : Bool) (c : Char)
  | nothing
  | variable (quoted : Bool) (name : String)
  | stripped (quoted : Bool) (name : String) (pattern : List Part)
  | arguments
  deriving Repr, Inhabited

abbrev Word := List Part

inductive Sink where
  | complaint
  | file (append : Bool) (path : Word)
  deriving Repr

inductive Command where
  | simple (assignments : List (String × Word)) (words : List Word) (sinks : List Sink)
  | forEach (name : String) (words : List Word) (body : List Command)
  | choose (subject : Word) (branches : List (List Word × List Command))
  | after (success : Bool) (command : Command)
  deriving Repr, Inhabited

/-! ## Words -/

inductive Mode where
  | open
  | quoted
  | braced
  deriving DecidableEq, Repr

def isBreak (c : Char) : Bool :=
  c ∈ [' ', '\t', '\n', ';', '&', '|', '<', '>', '(', ')']

def isNameChar (c : Char) : Bool :=
  c.isAlphanum || c = '_'

def literal (cs : List Char) : Word :=
  cs.map (.text true)

/-- Reads the parts of a word in a mode, up to the mark that ends the mode. Each step takes a
character at least, so that the length of the text bounds `steps`. -/
def readParts : (steps : Nat) → Mode → List Char → Word × List Char
  | 0, _, cs => ([], cs)
  | _, _, [] => ([], [])
  | n + 1, mode, c :: cs =>
    let onward (parts : Word) (rest : List Char) : Word × List Char :=
      let (more, rest) := readParts n mode rest
      (parts ++ more, rest)
    let quoted : Bool := mode = .quoted
    if c = '"' then
      if quoted then ([], cs)
      else
        let (inner, rest) := readParts n .quoted cs
        onward (.nothing :: inner) rest
    else if c = '\x7d' && mode = .braced then ([], cs)
    else if c = '\\' then
      match cs with
      | [] => ([Part.text true c], [])
      | d :: ds =>
        if d = '\n' then onward [] ds
        else if quoted && !(d ∈ ['$', '\x60', '"', '\\']) then onward (literal [c, d]) ds
        else onward (literal [d]) ds
    else if c = '\'' && !quoted then
      onward (.nothing :: literal (cs.takeWhile (· ≠ '\''))) ((cs.dropWhile (· ≠ '\'')).drop 1)
    else if c = '$' then
      match cs with
      | '@' :: ds => onward [.arguments] ds
      | '\x7b' :: ds =>
        let name := String.ofList (ds.takeWhile isNameChar)
        match ds.dropWhile isNameChar with
        | '#' :: es =>
          let (pattern, rest) := readParts n .braced es
          onward [.stripped quoted name pattern] rest
        | es => onward [.variable quoted name] (es.drop 1)
      | ds =>
        let name := ds.takeWhile isNameChar
        if name.isEmpty then onward [.text quoted c] ds
        else onward [.variable quoted (String.ofList name)] (ds.dropWhile isNameChar)
    else if mode = .open && isBreak c then ([], c :: cs)
    else onward [.text quoted c] cs

def readWord (cs : List Char) : Word × List Char :=
  readParts cs.length .open cs

/-- The text of a word in which nothing is quoted and nothing stands for anything else. -/
def bareText? (w : Word) : Option String :=
  let bare : Part → Option Char
    | .text false c => some c
    | _ => none
  (w.mapM bare).map String.ofList

/-! ## Tokens -/

inductive Token where
  | word (w : Word)
  | separator
  | branchEnd
  | bar
  | connective (success : Bool)
  | closing
  | append
  | replace
  | complain
  deriving Repr

def readTokens : (steps : Nat) → List Char → List Token
  | 0, _ => []
  | _, [] => []
  | n + 1, c :: cs =>
    match c, cs with
    | ' ', _ => readTokens n cs
    | '\t', _ => readTokens n cs
    | '#', _ => readTokens n (cs.dropWhile (· ≠ '\n'))
    | '\n', _ => .separator :: readTokens n cs
    | ';', ';' :: ds => .branchEnd :: readTokens n ds
    | ';', _ => .separator :: readTokens n cs
    | '|', '|' :: ds => .connective false :: readTokens n ds
    | '&', '&' :: ds => .connective true :: readTokens n ds
    | '|', _ => .bar :: readTokens n cs
    | '(', _ => readTokens n cs
    | ')', _ => .closing :: readTokens n cs
    | '>', '>' :: ds => .append :: readTokens n ds
    | '>', '&' :: '2' :: ds => .complain :: readTokens n ds
    | '>', _ => .replace :: readTokens n cs
    | '&', _ => readTokens n cs
    | '<', _ => readTokens n cs
    | _, _ =>
      let (w, rest) := readWord (c :: cs)
      .word w :: readTokens n rest

/-! ## Commands -/

def isWord (text : String) : Token → Bool
  | .word w => bareText? w = some text
  | _ => false

def skipSeparators (ts : List Token) : List Token :=
  ts.dropWhile fun
    | .separator => true
    | _ => false

/-- A word that assigns to a variable. -/
def assignment? (w : Word) : Option (String × Word) :=
  let isBare (p : Char → Bool) : Part → Bool
    | .text false c => p c
    | _ => false
  match bareText? (w.takeWhile (isBare isNameChar)), w.dropWhile (isBare isNameChar) with
  | some name, .text false '=' :: value => if name = "" then none else some (name, value)
  | _, _ => none

/-- The words and sinks of a simple command. -/
def readSimple : List Token → (List Word × List Sink) × List Token
  | .word w :: ts =>
    let ((ws, sinks), rest) := readSimple ts
    ((w :: ws, sinks), rest)
  | .complain :: ts =>
    let ((ws, sinks), rest) := readSimple ts
    ((ws, .complaint :: sinks), rest)
  | .append :: .word path :: ts =>
    let ((ws, sinks), rest) := readSimple ts
    ((ws, .file true path :: sinks), rest)
  | .replace :: .word path :: ts =>
    let ((ws, sinks), rest) := readSimple ts
    ((ws, .file false path :: sinks), rest)
  | ts => (([], []), ts)

def simpleCommand (words : List Word) (sinks : List Sink) : Command :=
  .simple ((words.takeWhile fun w => (assignment? w).isSome).filterMap assignment?)
    (words.dropWhile fun w => (assignment? w).isSome) sinks

def wordsOf (ts : List Token) : List Word :=
  ts.filterMap fun
    | .word w => some w
    | _ => none

/-- Whether a list of commands ends before these tokens. -/
def endsList : List Token → Bool
  | [] => true
  | .branchEnd :: _ => true
  | t :: _ => isWord "done" t || isWord "esac" t

mutual

def readCommands : (steps : Nat) → List Token → List Command × List Token
  | 0, ts => ([], ts)
  | n + 1, ts =>
    let ts := skipSeparators ts
    if endsList ts then ([], ts)
    else
      let (c, rest) := match ts with
        | .connective success :: ts =>
          let (c, rest) := readCommand n (skipSeparators ts)
          (.after success c, rest)
        | ts => readCommand n ts
      let (cs, rest) := readCommands n rest
      (c :: cs, rest)

def readCommand : (steps : Nat) → List Token → Command × List Token
  | 0, ts => (.simple [] [] [], ts)
  | n + 1, ts =>
    match ts with
    | keyword :: .word subject :: rest =>
      if isWord "for" keyword then
        let isListed : Token → Bool
          | .separator => false
          | _ => true
        let words := (rest.takeWhile isListed).drop 1
        let body := (skipSeparators (rest.dropWhile isListed)).drop 1
        let (body, rest) := readCommands n body
        (.forEach ((bareText? subject).getD "") (wordsOf words) body, rest.drop 1)
      else if isWord "case" keyword then
        let (branches, rest) := readBranches n (rest.drop 1)
        (.choose subject branches, rest)
      else
        let ((words, sinks), rest) := readSimple ts
        (simpleCommand words sinks, rest)
    | _ =>
      let ((words, sinks), rest) := readSimple ts
      (simpleCommand words sinks, rest.drop (if words.isEmpty && sinks.isEmpty then 1 else 0))

def readBranches : (steps : Nat) → List Token → List (List Word × List Command) × List Token
  | 0, ts => ([], ts)
  | n + 1, ts =>
    let ts := skipSeparators ts
    match ts with
    | [] => ([], [])
    | t :: rest =>
      if isWord "esac" t then ([], rest)
      else
        let isPattern : Token → Bool
          | .closing => false
          | _ => true
        let patterns := wordsOf (ts.takeWhile isPattern)
        let (body, rest) := readCommands n ((ts.dropWhile isPattern).drop 1)
        let rest := match rest with
          | .branchEnd :: rest => rest
          | rest => rest
        let (branches, rest) := readBranches n rest
        ((patterns, body) :: branches, rest)

end

def readScript (text : List Char) : List Command :=
  let tokens := readTokens text.length text
  (readCommands (2 * tokens.length + 2) tokens).1

end ServiceScaffold.Shell

import ServiceScaffold.Schema.Lexeme
import ServiceScaffold.Schema.Position
import ServiceScaffold.Text.Blank
import ServiceScaffold.Text.Digit

/-!
# From text to lexemes

`scan` cuts a text into pieces: blank characters, comments and lexemes, each with its source.
No character is lost (`scan_sources`), and what cannot be cut is a string literal without its
closing quote. `Tokens.ofText` keeps the lexemes and finds their places.
-/
namespace ServiceScaffold.Schema
open Text

inductive Piece where
  | blank (c : Char)
  | comment (source : List Char)
  | lexeme (l : Lexeme) (source : List Char)
  deriving DecidableEq, Repr

def Piece.source : Piece → List Char
  | .blank c => [c]
  | .comment s => s
  | .lexeme _ s => s

namespace Lexer

/-! ## Comments -/

/-- The text up to the end of a block comment, which without one is the whole text. -/
def blockTail : List Char → List Char × List Char
  | '*' :: '/' :: cs => (['*', '/'], cs)
  | c :: cs => (c :: (blockTail cs).1, (blockTail cs).2)
  | [] => ([], [])

/-- A comment that starts with `c`, and what follows it. -/
def comment? (c : Char) (cs : List Char) : Option (List Char × List Char) :=
  if c ≠ '/' then none
  else match cs with
    | '/' :: _ => some (c :: cs.takeWhile (· ≠ '\n'), cs.dropWhile (· ≠ '\n'))
    | '*' :: cs => some (c :: '*' :: (blockTail cs).1, (blockTail cs).2)
    | _ => none

/-! ## String literals -/

/-- The contents of a literal up to its quote, and what follows the quote. A backslash takes the
character after it along, and no line feed may stand bare. -/
def stringBody? (quote : Char) : List Char → Option (List Char × List Char)
  | [] => none
  | c :: cs =>
    if c = quote then some ([], cs)
    else if c = '\n' then none
    else if c = '\\' then
      match cs with
      | [] => none
      | d :: ds => (stringBody? quote ds).map fun (body, rest) => (c :: d :: body, rest)
    else (stringBody? quote cs).map fun (body, rest) => (c :: body, rest)

/-! ## Numbers -/

def isSign (c : Char) : Bool := c = '+' || c = '-'

/-- A digit, a point before one, or a sign before either. -/
def startsNumber (c : Char) (next : Option Char) : Bool :=
  isDigit c || (isSign c && next.any fun d => isDigit d || d = '.')
    || (c = '.' && next.any isDigit)

def marksHex : List Char → Bool
  | '0' :: x :: _ => x = 'x' || x = 'X'
  | _ => false

/-- Whether a number is hexadecimal, so that an `e` in it is a digit and opens no exponent. -/
def isHex : List Char → Bool
  | c :: cs => if isSign c then marksHex cs else marksHex (c :: cs)
  | [] => false

/-- The rest of a number whose last character so far is `last`. A sign belongs to it only behind
the mark of an exponent. -/
def numberTail (hex : Bool) (last : Char) : List Char → List Char × List Char
  | [] => ([], [])
  | c :: cs =>
    if isWordPart c || c = '_' || c = '.'
        || (isSign c && (last = 'e' || last = 'E') && !hex) then
      (c :: (numberTail hex c cs).1, (numberTail hex c cs).2)
    else ([], c :: cs)

/-! ## Words -/

def startsName (c : Char) : Bool := isLetter c || c = '_'

/-- A letter or an underscore, or a dot before one. -/
def startsWord (c : Char) (next : Option Char) : Bool :=
  startsName c || (c = '.' && next.any startsName)

/-- The rest of a word. A dot belongs to it only before a letter or an underscore. -/
def wordTail : List Char → List Char × List Char
  | [] => ([], [])
  | c :: cs =>
    if isWordPart c || c = '_' || (c = '.' && cs.head?.any startsName) then
      (c :: (wordTail cs).1, (wordTail cs).2)
    else ([], c :: cs)

/-! ## Pieces -/

def isQuote (c : Char) : Bool := c = '"' || c = '\''

/-- The lexeme that starts with `c`, its source, and what follows; none when `c` is a quote that
opens a literal without an end. -/
def lexeme? (c : Char) (cs : List Char) : Option (Lexeme × List Char × List Char) :=
  match Delimiter.ofChar? c with
  | some d => some (⟨.delimiter d, String.singleton c⟩, [c], cs)
  | none =>
    if isQuote c then
      (stringBody? c cs).map fun (body, rest) =>
        (⟨.string, String.ofList body⟩, c :: body ++ [c], rest)
    else if startsNumber c cs.head? then
      let source := c :: (numberTail (isHex (c :: cs)) c cs).1
      some (⟨.number, String.ofList source⟩, source, (numberTail (isHex (c :: cs)) c cs).2)
    else if startsWord c cs.head? then
      let source := c :: (wordTail cs).1
      some (Lexeme.ofWord (String.ofList source), source, (wordTail cs).2)
    else some (⟨.symbol, String.singleton c⟩, [c], cs)

def piece? (c : Char) (cs : List Char) : Option (Piece × List Char) :=
  if isBlank c then some (.blank c, cs)
  else match comment? c cs with
    | some (source, rest) => some (.comment source, rest)
    | none => (lexeme? c cs).map fun (l, source, rest) => (.lexeme l source, rest)

/-! ## Nothing is lost -/

theorem blockTail_append (cs : List Char) : (blockTail cs).1 ++ (blockTail cs).2 = cs := by
  fun_induction blockTail cs <;> simp_all

theorem comment?_append {c : Char} {cs source rest : List Char}
    (h : comment? c cs = some (source, rest)) : source ++ rest = c :: cs := by
  unfold comment? at h
  split at h
  · cases h
  · split at h
    · cases h
      simp [List.takeWhile_append_dropWhile]
    · cases h
      simp [blockTail_append]
    · cases h

theorem stringBody?_append {quote : Char} {cs body rest : List Char}
    (h : stringBody? quote cs = some (body, rest)) : body ++ quote :: rest = cs := by
  fun_induction stringBody? quote cs generalizing body with
  | case1 => cases h
  | case2 cs => cases h; rfl
  | case3 => cases h
  | case4 => cases h
  | case5 d ds _ _ ih =>
    obtain ⟨⟨b, r⟩, hb, he⟩ := Option.map_eq_some_iff.1 h
    cases he
    simp [ih hb]
  | case6 c cs _ _ _ ih =>
    obtain ⟨⟨b, r⟩, hb, he⟩ := Option.map_eq_some_iff.1 h
    cases he
    simp [ih hb]

theorem numberTail_append (hex : Bool) (last : Char) (cs : List Char) :
    (numberTail hex last cs).1 ++ (numberTail hex last cs).2 = cs := by
  fun_induction numberTail hex last cs <;> simp_all

theorem wordTail_append (cs : List Char) : (wordTail cs).1 ++ (wordTail cs).2 = cs := by
  fun_induction wordTail cs <;> simp_all

theorem lexeme?_append {c : Char} {cs source rest : List Char} {l : Lexeme}
    (h : lexeme? c cs = some (l, source, rest)) : source ++ rest = c :: cs := by
  unfold lexeme? at h
  split at h
  · cases h; rfl
  · split at h
    · obtain ⟨⟨b, r⟩, hb, he⟩ := Option.map_eq_some_iff.1 h
      cases he
      simp [stringBody?_append hb]
    · split at h
      · cases h
        simp [numberTail_append]
      · split at h
        · cases h
          simp [wordTail_append]
        · cases h; rfl

/-- A piece and what follows it make up the text. -/
theorem piece?_append {c : Char} {cs rest : List Char} {p : Piece}
    (h : piece? c cs = some (p, rest)) : p.source ++ rest = c :: cs := by
  unfold piece? at h
  split at h
  · cases h; rfl
  · split at h
    · next hc => cases h; exact comment?_append hc
    · obtain ⟨⟨l, s, r⟩, hl, he⟩ := Option.map_eq_some_iff.1 h
      cases he
      exact lexeme?_append hl

theorem comment?_ne_nil {c : Char} {cs source rest : List Char}
    (h : comment? c cs = some (source, rest)) : source ≠ [] := by
  unfold comment? at h
  split at h
  · cases h
  · split at h <;> cases h <;> simp

theorem lexeme?_ne_nil {c : Char} {cs source rest : List Char} {l : Lexeme}
    (h : lexeme? c cs = some (l, source, rest)) : source ≠ [] := by
  unfold lexeme? at h
  split at h
  · cases h; simp
  · split at h
    · obtain ⟨⟨b, r⟩, _, he⟩ := Option.map_eq_some_iff.1 h
      cases he
      simp
    · split at h
      · cases h; simp
      · split at h <;> cases h <;> simp

theorem piece?_ne_nil {c : Char} {cs rest : List Char} {p : Piece}
    (h : piece? c cs = some (p, rest)) : p.source ≠ [] := by
  unfold piece? at h
  split at h
  · cases h; simp [Piece.source]
  · split at h
    · next hc => cases h; exact comment?_ne_nil hc
    · obtain ⟨⟨l, s, r⟩, hl, he⟩ := Option.map_eq_some_iff.1 h
      cases he
      exact lexeme?_ne_nil hl

theorem piece?_length {c : Char} {cs rest : List Char} {p : Piece}
    (h : piece? c cs = some (p, rest)) : rest.length < (c :: cs).length := by
  have hlen := congrArg List.length (piece?_append h)
  have hpos := List.length_pos_iff.2 (piece?_ne_nil h)
  simp only [List.length_append] at hlen
  omega

/-! ## The whole text -/

/-- The pieces of a text, and the part that starts with a literal that has no end, if any. -/
def scan : List Char → List Piece × List Char
  | [] => ([], [])
  | c :: cs =>
    match h : piece? c cs with
    | none => ([], c :: cs)
    | some (p, rest) =>
      have := piece?_length h
      (p :: (scan rest).1, (scan rest).2)
termination_by s => s.length
decreasing_by all_goals assumption

theorem scan_sources (s : List Char) : (scan s).1.flatMap Piece.source ++ (scan s).2 = s := by
  fun_induction scan s with
  | case1 => rfl
  | case2 => rfl
  | case3 c cs p rest h _ ih => simp [ih, piece?_append h]

end Lexer

/-! ## Tokens -/

/-- A lexeme and the place where its source starts. -/
structure Token where
  lexeme : Lexeme
  position : Position
  deriving DecidableEq, Repr

/-- The tokens of a text and the place where it ends. -/
structure Tokens where
  tokens : List Token
  stop : Position
  deriving DecidableEq, Repr

namespace Tokens

def ofPieces (p : Position) : List Piece → Tokens
  | [] => ⟨[], p⟩
  | piece :: ps =>
    let rest := ofPieces (p.after piece.source) ps
    match piece with
    | .lexeme l _ => ⟨⟨l, p⟩ :: rest.tokens, rest.stop⟩
    | _ => rest

/-- The tokens of a text, or the place of the quote that opens a literal without an end. -/
def ofText (text : String) : Except Position Tokens :=
  let (pieces, unread) := Lexer.scan text.toList
  let all := ofPieces .start pieces
  if unread.isEmpty then .ok all else .error all.stop

def lexemes (t : Tokens) : List Lexeme :=
  t.tokens.map Token.lexeme

/-- The tokens with the one that stands for the end of the input. -/
def withEnd (t : Tokens) : List Token :=
  t.tokens ++ [⟨.endOfInput, t.stop⟩]

/-- The place of the token that has `remaining` tokens from itself to the last, the end of the
input being the one that has none. -/
def place (t : Tokens) (remaining : Nat) : Position :=
  match t.tokens[t.tokens.length - remaining]? with
  | some token => token.position
  | none => t.stop

end Tokens

end ServiceScaffold.Schema

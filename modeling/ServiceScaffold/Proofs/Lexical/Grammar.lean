import Mathlib.Data.List.Chain
import ServiceScaffold.Proofs.Lexical.Characters
import ServiceScaffold.Text.Segment

/-!
# The lexical grammar

What a text may be cut into, without a word on how it is scanned: gaps of blank characters and
comments (`Gap`), lexemes each in the form that its source dictates (`Form`), and the places of
the lexemes as counts of what stands before them (`placeBehind`). `Cut` puts these together for a
whole text.
-/
namespace ServiceScaffold.Schema.Lexical
open Text Lexer

/-! ## Gaps -/

/-- A comment and what follows it. A line comment leaves its line feed to what follows, a block
comment ends with the first mark of its end, and one without that mark ends with the text. -/
inductive Comment : List Char → List Char → Prop
  | line {body rest} : '\n' ∉ body → rest = [] ∨ rest.head? = some '\n' →
      Comment ('/' :: '/' :: body) rest
  | block {body rest} : ¬ ['*', '/'] <:+: body → Comment ('/' :: '*' :: (body ++ ['*', '/'])) rest
  | unclosed {body} : ¬ ['*', '/'] <:+: body → Comment ('/' :: '*' :: body) []

/-- What may stand before a lexeme, with what follows it. -/
inductive Gap : List Char → List Char → Prop
  | nil {rest} : Gap [] rest
  | blank {c gap rest} : isBlank c = true → Gap gap rest → Gap (c :: gap) rest
  | comment {source gap rest} : Comment source (gap ++ rest) → Gap gap rest →
      Gap (source ++ gap) rest

/-! ## Runs -/

/-- What may stand in a word before `next`: a dot only before a letter or an underscore. -/
def InWord (c : Char) (next : Option Char) : Prop :=
  isWordPart c = true ∨ c = '_' ∨ c = '.' ∧ next.any startsName = true

def AllInWord (s : List Char) : Prop :=
  ∀ c cs, c :: cs <:+ s → InWord c cs.head?

structure WordRun (s : List Char) : Prop where
  starts : ∃ c cs, s = c :: cs ∧ startsWord c cs.head? = true
  continues : AllInWord s

/-- What may stand in a number behind `last`: a sign only behind the mark of an exponent, which a
hexadecimal number does not have. -/
def InNumber (hex : Bool) (last c : Char) : Prop :=
  isWordPart c = true ∨ c = '_' ∨ c = '.' ∨
    isSign c = true ∧ (last = 'e' ∨ last = 'E') ∧ hex = false

structure NumberRun (s : List Char) : Prop where
  starts : ∃ c cs, s = c :: cs ∧ startsNumber c cs.head? = true
  continues : s.IsChain (InNumber (isHex s))

/-- A run that nothing of what follows it could lengthen. -/
structure Longest (Run : List Char → Prop) (source rest : List Char) : Prop where
  run : Run source
  longest : ∀ more, more <+: rest → Run (source ++ more) → more = []

/-! ## Lexemes -/

/-- The contents of a literal: the quote and a line feed stand only behind a backslash, and no
backslash stands alone. -/
inductive LiteralBody (quote : Char) : List Char → Prop
  | nil : LiteralBody quote []
  | plain {c cs} : c ≠ quote → c ≠ '\n' → c ≠ '\\' → LiteralBody quote cs →
      LiteralBody quote (c :: cs)
  | escaped {c cs} : LiteralBody quote cs → LiteralBody quote ('\\' :: c :: cs)

/-- A character that belongs to no gap and starts no other lexeme. -/
structure StartsNothing (c : Char) (rest : List Char) : Prop where
  blank : isBlank c = false
  comment : ∀ source behind, source ++ behind = c :: rest → ¬ Comment source behind
  delimiter : ∀ d : Delimiter, d.char ≠ c
  quote : isQuote c = false
  number : ∀ run, run <+: c :: rest → ¬ NumberRun run
  word : ∀ run, run <+: c :: rest → ¬ WordRun run

/-- A lexeme, its source, and what follows it. -/
inductive Form : Lexeme → List Char → List Char → Prop
  | delimiter {rest} (d : Delimiter) : Form (.ofDelimiter d) [d.char] rest
  | string {quote body rest} : isQuote quote = true → LiteralBody quote body →
      Form ⟨.string, String.ofList body⟩ (quote :: (body ++ [quote])) rest
  | number {source rest} : Longest NumberRun source rest →
      Form ⟨.number, String.ofList source⟩ source rest
  | keyword {source rest} (k : Keyword) : Longest WordRun source rest →
      String.ofList source = k.text → Form ⟨.keyword k, String.ofList source⟩ source rest
  | ident {source rest} : Longest WordRun source rest →
      (∀ k : Keyword, String.ofList source ≠ k.text) →
      Form ⟨.ident, String.ofList source⟩ source rest
  | symbol {c rest} : StartsNothing c rest → Form ⟨.symbol, String.singleton c⟩ [c] rest

/-! ## Texts -/

/-- The place behind the text: one line more than it has line feeds, and one column more than it
has characters since the last of them. -/
def placeBehind (before : List Char) : Position :=
  ⟨1 + before.count '\n', 1 + (before.reverse.takeWhile (· ≠ '\n')).length⟩

/-- What stands behind `before` is gaps and lexemes in turn, of which these are the tokens, the
end of the input among them. -/
inductive Cut : List Char → List Char → List Token → Prop
  | stop {before gap} : Gap gap [] → Cut before gap [⟨.endOfInput, placeBehind (before ++ gap)⟩]
  | token {before gap l source rest tokens} : Gap gap (source ++ rest) → Form l source rest →
      Cut (before ++ gap ++ source) rest tokens →
      Cut before (gap ++ source ++ rest) (⟨l, placeBehind (before ++ gap)⟩ :: tokens)

/-! ## Comments -/

theorem mark_infix_cons {c : Char} {cs : List Char} :
    ['*', '/'] <:+: c :: cs ↔ c = '*' ∧ cs.head? = some '/' ∨ ['*', '/'] <:+: cs := by
  rw [List.infix_cons_iff, List.cons_prefix_cons]
  cases cs with
  | nil => simp
  | cons d ds => simp [List.cons_prefix_cons, eq_comm]

theorem blockTail_cons {c : Char} {cs : List Char} (h : ¬ (c = '*' ∧ cs.head? = some '/')) :
    blockTail (c :: cs) = (c :: (blockTail cs).1, (blockTail cs).2) := by
  rw [blockTail]
  rintro rest rfl rfl
  exact h ⟨rfl, rfl⟩

theorem blockTail_closed {body : List Char} (h : ¬ ['*', '/'] <:+: body) (rest : List Char) :
    blockTail (body ++ '*' :: '/' :: rest) = (body ++ ['*', '/'], rest) := by
  induction body with
  | nil => rfl
  | cons c body ih =>
    rw [mark_infix_cons, not_or] at h
    have hc : ¬ (c = '*' ∧ (body ++ '*' :: '/' :: rest).head? = some '/') := by
      cases body with
      | nil => simp
      | cons d ds => simpa using h.1
    rw [List.cons_append, blockTail_cons hc, ih h.2]
    rfl

theorem blockTail_unclosed {body : List Char} (h : ¬ ['*', '/'] <:+: body) :
    blockTail body = (body, []) := by
  induction body with
  | nil => rfl
  | cons c body ih =>
    rw [mark_infix_cons, not_or] at h
    rw [blockTail_cons h.1, ih h.2]

/-- Whatever is read as the tail of a block comment makes up a comment. -/
theorem comment_blockTail (cs : List Char) :
    Comment ('/' :: '*' :: (blockTail cs).1) (blockTail cs).2 := by
  by_cases h : ['*', '/'] <:+: cs
  · -- the first mark
    have first : ∃ body rest, cs = body ++ '*' :: '/' :: rest ∧ ¬ ['*', '/'] <:+: body := by
      induction cs with
      | nil => simp at h
      | cons c cs ih =>
        rw [mark_infix_cons] at h
        by_cases hc : c = '*' ∧ cs.head? = some '/'
        · obtain ⟨rfl, hd⟩ := hc
          obtain ⟨rest, rfl⟩ := List.head?_eq_some_iff.1 hd
          exact ⟨[], rest, rfl, by simp⟩
        · obtain ⟨body, rest, rfl, hb⟩ := ih (h.resolve_left hc)
          refine ⟨c :: body, rest, rfl, ?_⟩
          rw [mark_infix_cons, not_or]
          refine ⟨fun ⟨hc', hd⟩ => hc ⟨hc', ?_⟩, hb⟩
          cases body with
          | nil => cases hd
          | cons d ds => exact hd
    obtain ⟨body, rest, rfl, hb⟩ := first
    rw [blockTail_closed hb]
    exact .block hb
  · rw [blockTail_unclosed h]
    exact .unclosed h

/-- Without a line feed in it, a line goes up to the line feed that follows it. -/
theorem line_split {body rest : List Char} (hb : '\n' ∉ body)
    (hr : rest = [] ∨ rest.head? = some '\n') :
    (body ++ rest).takeWhile (· ≠ '\n') = body ∧ (body ++ rest).dropWhile (· ≠ '\n') = rest := by
  have hbody : ∀ c ∈ body, decide (c ≠ '\n') = true := fun c hc =>
    decide_eq_true fun e => hb (e ▸ hc)
  have hrest : rest.takeWhile (· ≠ '\n') = [] ∧ rest.dropWhile (· ≠ '\n') = rest := by
    rcases hr with rfl | hr
    · exact ⟨rfl, rfl⟩
    · obtain ⟨cs, rfl⟩ := List.head?_eq_some_iff.1 hr
      exact ⟨rfl, rfl⟩
  rw [List.takeWhile_append_of_pos hbody, List.dropWhile_append_of_pos hbody, hrest.1, hrest.2,
    List.append_nil]
  exact ⟨rfl, rfl⟩

theorem comment_line (cs : List Char) :
    Comment ('/' :: '/' :: cs.takeWhile (· ≠ '\n')) (cs.dropWhile (· ≠ '\n')) := by
  refine .line (not_mem_takeWhile_ne '\n' cs) ?_
  cases h : cs.dropWhile (· ≠ '\n') with
  | nil => exact .inl rfl
  | cons c rest =>
    have hc := List.head?_dropWhile_not (fun c => decide (c ≠ '\n')) cs
    rw [h] at hc
    simpa using hc

theorem comment?_eq_some {source rest : List Char} (h : Comment source rest) :
    ∃ c cs, source ++ rest = c :: cs ∧ comment? c cs = some (source, rest) := by
  cases h with
  | @line body rest hb hr =>
    obtain ⟨ht, hd⟩ := line_split hb hr
    refine ⟨'/', '/' :: (body ++ rest), rfl, ?_⟩
    rw [comment?, if_neg (not_not_intro rfl)]
    show some ('/' :: '/' :: (body ++ rest).takeWhile (· ≠ '\n'),
      (body ++ rest).dropWhile (· ≠ '\n')) = _
    rw [ht, hd]
  | @block body rest hb =>
    refine ⟨'/', '*' :: (body ++ '*' :: '/' :: rest), by simp, ?_⟩
    rw [comment?, if_neg (not_not_intro rfl), blockTail_closed hb]
  | @unclosed body hb =>
    refine ⟨'/', '*' :: body, by simp, ?_⟩
    rw [comment?, if_neg (not_not_intro rfl), blockTail_unclosed hb]

theorem comment_of_comment? {c : Char} {cs source rest : List Char}
    (h : comment? c cs = some (source, rest)) : Comment source rest := by
  unfold comment? at h
  split at h
  · cases h
  · next hc =>
    obtain rfl : c = '/' := Decidable.not_not.1 hc
    split at h
    · cases h
      exact comment_line _
    · cases h
      exact comment_blockTail _
    · cases h

end ServiceScaffold.Schema.Lexical

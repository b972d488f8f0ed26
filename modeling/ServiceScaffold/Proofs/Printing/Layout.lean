import ServiceScaffold.Proofs.Lexical.Tokens
import ServiceScaffold.Schema.Grammar

/-!
# Laying out lexemes

`layout` writes lexemes down with what keeps them apart, and the tokens of what it writes are these
lexemes (`ofText_layout`). What may be written are the words, the numerals and the contents of
literals, each told by what the tokens of a text are (`IsWord`, `IsNumeral`, `IsQuotable`).
-/
namespace ServiceScaffold.Schema.Printing
open Text Lexer Lexical

/-! ## Texts of one lexeme -/

/-- The only lexeme of the text is of such a kind, and it is the whole text. -/
def IsOne (wanted : Kind → Bool) (s : String) : Prop :=
  ∃ t l, Tokens.ofText s = .ok t ∧ t.lexemes = [l] ∧ wanted l.kind = true ∧ l.text = s

def IsWord (s : String) : Prop :=
  IsOne Kind.isWord s

def IsNumeral (s : String) : Prop :=
  IsOne (· = .number) s

/-- The text stands between the quotes of some literal. -/
def IsQuotable (s : String) : Prop :=
  ∃ literal t, Tokens.ofText literal = .ok t ∧ t.lexemes = [⟨.string, s⟩]

theorem longest_end {Run : List Char → Prop} {s : List Char} (h : Run s) : Longest Run s [] :=
  ⟨h, fun _ hm _ => List.prefix_nil.1 hm⟩

theorem form_of_single {s : String} {t : Tokens} {l : Lexeme} (h : Tokens.ofText s = .ok t)
    (hl : t.lexemes = [l]) : ∃ source rest, Form l source rest := by
  have hc := cut_of_ofText h
  have hw : t.withEnd.map Token.lexeme = [l, .endOfInput] := by
    rw [Tokens.withEnd, List.map_append]
    exact congrArg (· ++ [Lexeme.endOfInput]) hl
  generalize t.withEnd = tokens, s.toList = cs at hc hw
  cases hc with
  | stop => simp at hw
  | @token _ gap l' source rest tokens _ hf _ =>
    obtain ⟨rfl, _⟩ := List.cons.inj hw
    exact ⟨source, rest, hf⟩

theorem single_of_form {s : String} {l : Lexeme} (h : Form l s.toList []) :
    ∃ t, Tokens.ofText s = .ok t ∧ t.lexemes = [l] := by
  have hc : Cut [] ([] ++ s.toList ++ []) _ := .token .nil h (.stop .nil)
  rw [List.nil_append, List.append_nil] at hc
  exact ⟨⟨[_], _⟩, ofText_of_cut hc, rfl⟩

theorem eq_toList {s : String} {source : List Char} (h : String.ofList source = s) :
    source = s.toList := by
  rw [← h, String.toList_ofList]

theorem isWord_iff {s : String} : IsWord s ↔ WordRun s.toList := by
  constructor
  · rintro ⟨t, l, ht, hl, hw, hs⟩
    obtain ⟨source, rest, hf⟩ := form_of_single ht hl
    cases hf with
    | delimiter | string | number | symbol => cases hw
    | keyword k h => exact eq_toList hs ▸ h.run
    | ident h => exact eq_toList hs ▸ h.run
  · intro h
    have hf := form_ofWord (longest_end h)
    rw [String.ofList_toList] at hf
    obtain ⟨t, ht, hl⟩ := single_of_form hf
    exact ⟨t, _, ht, hl, Lexeme.isWord_ofWord s, Lexeme.text_ofWord s⟩

theorem isNumeral_iff {s : String} : IsNumeral s ↔ NumberRun s.toList := by
  constructor
  · rintro ⟨t, l, ht, hl, hw, hs⟩
    obtain ⟨source, rest, hf⟩ := form_of_single ht hl
    cases hf with
    | number h => exact eq_toList hs ▸ h.run
    | delimiter | string | keyword | ident | symbol => cases hw
  · intro h
    have hf := Form.number (longest_end h)
    rw [String.ofList_toList] at hf
    obtain ⟨t, ht, hl⟩ := single_of_form hf
    exact ⟨t, _, ht, hl, rfl, rfl⟩

theorem form_literal {quote : Char} {s : String} (hq : isQuote quote = true)
    (h : LiteralBody quote s.toList) (rest : List Char) :
    Form ⟨.string, s⟩ (quote :: (s.toList ++ [quote])) rest := by
  have hf : Form _ _ rest := .string hq h
  rwa [String.ofList_toList] at hf

theorem isQuotable_iff {s : String} :
    IsQuotable s ↔ LiteralBody '"' s.toList ∨ LiteralBody '\'' s.toList := by
  constructor
  · rintro ⟨literal, t, ht, hl⟩
    obtain ⟨source, rest, hf⟩ := form_of_single ht hl
    generalize hs : (⟨.string, s⟩ : Lexeme) = l at hf
    cases hf with
    | @string quote body _ hq hb =>
      cases hs
      rw [String.toList_ofList]
      simp only [isQuote, Bool.or_eq_true, decide_eq_true_eq] at hq
      rcases hq with rfl | rfl
      · exact .inl hb
      · exact .inr hb
    | delimiter | number | keyword | ident | symbol => cases hs
  · have literal {quote : Char} (hq : isQuote quote = true) (h : LiteralBody quote s.toList) :
        IsQuotable s := by
      refine ⟨String.ofList (quote :: (s.toList ++ [quote])), single_of_form ?_⟩
      rw [String.toList_ofList]
      exact form_literal hq h []
    rintro (h | h)
    · exact literal rfl h
    · exact literal rfl h

/-! ## Deciding -/

theorem wordRun_iff {c : Char} {cs : List Char} :
    WordRun (c :: cs) ↔ startsWord c cs.head? = true ∧ wordTail cs = (cs, []) := by
  constructor
  · intro h
    refine ⟨startsWord_of_run (List.prefix_refl _) h, ?_⟩
    have ht := (longest_end h).wordTail
    rwa [List.append_nil] at ht
  · rintro ⟨hs, ht⟩
    have h := (longest_wordTail hs).run
    rwa [ht] at h

theorem numberRun_iff {c : Char} {cs : List Char} :
    NumberRun (c :: cs) ↔
      startsNumber c cs.head? = true ∧ numberTail (isHex (c :: cs)) c cs = (cs, []) := by
  constructor
  · intro h
    refine ⟨startsNumber_of_run (List.prefix_refl _) h, ?_⟩
    have ht := (longest_end h).numberTail
    rwa [List.append_nil] at ht
  · rintro ⟨hs, ht⟩
    have h := (longest_numberTail hs).run
    rwa [ht] at h

theorem literalBody_iff {quote : Char} (hq : isQuote quote = true) {s : List Char} :
    LiteralBody quote s ↔ stringBody? quote (s ++ [quote]) = some (s, []) :=
  ⟨fun h => stringBody?_of_literalBody hq h [], literalBody_of_stringBody?⟩

instance : (s : List Char) → Decidable (WordRun s)
  | [] => .isFalse fun ⟨⟨_, _, h, _⟩, _⟩ => nomatch h
  | _ :: _ => decidable_of_iff _ wordRun_iff.symm

instance : (s : List Char) → Decidable (NumberRun s)
  | [] => .isFalse fun ⟨⟨_, _, h, _⟩, _⟩ => nomatch h
  | _ :: _ => decidable_of_iff _ numberRun_iff.symm

instance (s : String) : Decidable (IsWord s) :=
  decidable_of_iff _ isWord_iff.symm

instance (s : String) : Decidable (IsNumeral s) :=
  decidable_of_iff _ isNumeral_iff.symm

/-- The quote for a text: the double one where that will do. -/
def quoteFor (s : List Char) : Char :=
  if stringBody? '"' (s ++ ['"']) = some (s, []) then '"' else '\''

theorem literalBody_quoteFor {s : String} (h : IsQuotable s) :
    isQuote (quoteFor s.toList) = true ∧ LiteralBody (quoteFor s.toList) s.toList := by
  unfold quoteFor
  split
  · next hs => exact ⟨rfl, (literalBody_iff rfl).2 hs⟩
  · next hs => exact ⟨rfl, (isQuotable_iff.1 h).resolve_left fun hb => hs ((literalBody_iff rfl).1 hb)⟩

instance (s : String) : Decidable (IsQuotable s) :=
  decidable_of_iff (stringBody? '"' (s.toList ++ ['"']) = some (s.toList, []) ∨
    stringBody? '\'' (s.toList ++ ['\'']) = some (s.toList, [])) <| by
      rw [isQuotable_iff, literalBody_iff rfl, literalBody_iff rfl]

/-! ## Layout -/

def source (l : Lexeme) : List Char :=
  match l.kind with
  | .string => quoteFor l.text.toList :: (l.text.toList ++ [quoteFor l.text.toList])
  | _ => l.text.toList

/-- The kinds before which no blank is written. -/
def staysClose : Kind → Bool
  | .delimiter .semicolon | .delimiter .comma | .delimiter .rparen | .delimiter .langle
  | .delimiter .rangle => true
  | _ => false

/-- What is written between a lexeme and the next one. -/
def gapBehind (l : Lexeme) (next : Kind) : List Char :=
  match l.kind with
  | .delimiter .semicolon | .delimiter .lbrace | .delimiter .rbrace => ['\n']
  | .delimiter .lparen | .delimiter .langle => []
  | _ => if staysClose next then [] else [' ']

def layout : List Lexeme → List Char
  | [] => []
  | l :: ls => source l ++ gapBehind l (Grammar.kindAt ls 0) ++ layout ls

/-- The lexemes that may be written down. -/
inductive IsWritable : Lexeme → Prop
  | delimiter (d : Delimiter) : IsWritable (.ofDelimiter d)
  | word {s : String} : IsWord s → IsWritable (.ofWord s)
  | numeral {s : String} : IsNumeral s → IsWritable ⟨.number, s⟩
  | literal {s : String} : IsQuotable s → IsWritable ⟨.string, s⟩

/-- Whether nothing of a word or a number goes on here. -/
def Breaks (rest : List Char) : Prop :=
  ∀ c ∈ rest.head?, isBreak c = true

theorem longest_of_breaks {Run : List Char → Prop}
    (hrun : ∀ s, Run s → ∀ c ∈ s, isBreak c = false) {s rest : List Char} (h : Run s)
    (hr : Breaks rest) : Longest Run s rest := by
  refine ⟨h, ?_⟩
  intro more hm hmore
  cases more with
  | nil => rfl
  | cons c more =>
    obtain ⟨tail, rfl⟩ := hm
    have hb := hrun _ hmore c (by simp)
    rw [hr c rfl] at hb
    cases hb

theorem longest_word {s rest : List Char} (h : WordRun s) (hr : Breaks rest) :
    Longest WordRun s rest :=
  longest_of_breaks (fun _ hs _ => hs.isBreak_eq_false) h hr

theorem longest_number {s rest : List Char} (h : NumberRun s) (hr : Breaks rest) :
    Longest NumberRun s rest :=
  longest_of_breaks (fun _ hs _ => hs.isBreak_eq_false) h hr

theorem kind_ofWord (s : String) :
    (Lexeme.ofWord s).kind = .ident ∨ ∃ k : Keyword, s = k.text ∧
      (Lexeme.ofWord s).kind = .keyword k := by
  by_cases h : ∃ k : Keyword, s = k.text
  · obtain ⟨k, hk⟩ := h
    exact .inr ⟨k, hk, by rw [ofWord_keyword hk]⟩
  · rw [not_exists] at h
    exact .inl (by rw [ofWord_ident h])

theorem kind_ofWord_ne {s : String} {k : Kind} (hk : k.isWord = false) :
    (Lexeme.ofWord s).kind ≠ k := by
  intro h
  have hw := Lexeme.isWord_ofWord s
  rw [Lexeme.isWord, h, hk] at hw
  cases hw

theorem source_ofWord (s : String) : source (.ofWord s) = s.toList := by
  have ht := Lexeme.text_ofWord s
  rcases kind_ofWord s with hk | ⟨k, _, hk⟩ <;> simp only [source, hk, ht]

theorem eq_ofDelimiter {l : Lexeme} (h : IsWritable l) {d : Delimiter}
    (hk : l.kind = .delimiter d) : l = .ofDelimiter d := by
  cases h with
  | delimiter e =>
    cases hk
    rfl
  | word => exact absurd hk (kind_ofWord_ne rfl)
  | numeral => cases hk
  | literal => cases hk

theorem form_source {l : Lexeme} (h : IsWritable l) {rest : List Char}
    (hr : (∀ d, l.kind ≠ .delimiter d) → Breaks rest) : Form l (source l) rest := by
  cases h with
  | delimiter d =>
    rw [source, Lexeme.ofDelimiter, String.toList_singleton]
    exact .delimiter d
  | @word s hs =>
    have hf := form_ofWord (longest_word (isWord_iff.1 hs) (hr fun d => kind_ofWord_ne rfl))
    rwa [String.ofList_toList, ← source_ofWord s] at hf
  | @numeral s hs =>
    have hf := Form.number (longest_number (isNumeral_iff.1 hs) (hr fun d => nofun))
    rwa [String.ofList_toList] at hf
  | @literal s hs =>
    obtain ⟨hq, hb⟩ := literalBody_quoteFor hs
    exact form_literal hq hb rest

/-- Behind a lexeme that is no delimiter a blank or a delimiter is written. -/
theorem breaks_layout {l : Lexeme} {ls : List Lexeme} (hl : ∀ d, l.kind ≠ .delimiter d)
    (h : ∀ n ∈ ls, IsWritable n) : Breaks (gapBehind l (Grammar.kindAt ls 0) ++ layout ls) := by
  have hgap : gapBehind l (Grammar.kindAt ls 0) =
      if staysClose (Grammar.kindAt ls 0) then [] else [' '] := by
    unfold gapBehind
    split <;> first | rfl | exact absurd ‹_› (hl _)
  rw [hgap]
  split
  · next hs =>
    match ls with
    | [] => cases hs
    | n :: ls =>
      obtain ⟨d, hd⟩ : ∃ d, n.kind = .delimiter d := by
        change staysClose n.kind = true at hs
        unfold staysClose at hs
        split at hs <;> first | exact ⟨_, ‹_›⟩ | cases hs
      rw [eq_ofDelimiter (h n List.mem_cons_self) hd, layout, source, Lexeme.ofDelimiter,
        String.toList_singleton]
      rintro c ⟨⟩
      exact isBreak_delimiter d
  · rintro c ⟨⟩
    decide

theorem gap_of_blank {gap : List Char} (h : ∀ c ∈ gap, isBlank c = true) (rest : List Char) :
    Gap gap rest := by
  induction gap with
  | nil => exact .nil
  | cons c gap ih =>
    simp only [List.mem_cons, forall_eq_or_imp] at h
    exact .blank h.1 (ih h.2)

theorem gapBehind_blank (l : Lexeme) (next : Kind) : ∀ c ∈ gapBehind l next, isBlank c = true := by
  unfold gapBehind
  split
  iterate 3 simp only [List.mem_singleton, forall_eq]; decide
  iterate 2 exact fun c hc => absurd hc List.not_mem_nil
  split
  · exact fun c hc => absurd hc List.not_mem_nil
  · simp only [List.mem_singleton, forall_eq]; decide

/-- A layout is cut into the lexemes that were laid out. -/
theorem cut_layout {ls : List Lexeme} (h : ∀ l ∈ ls, IsWritable l) (before : List Char)
    {gap : List Char} (hg : ∀ c ∈ gap, isBlank c = true) :
    ∃ tokens, Cut before (gap ++ layout ls) tokens ∧
      tokens.map Token.lexeme = ls ++ [.endOfInput] := by
  induction ls generalizing before gap with
  | nil => exact ⟨_, by rw [layout, List.append_nil]; exact .stop (gap_of_blank hg []), rfl⟩
  | cons l ls ih =>
    simp only [List.mem_cons, forall_eq_or_imp] at h
    obtain ⟨tokens, hc, ht⟩ := ih h.2 (before ++ gap ++ source l) (gapBehind_blank l _)
    have hf := form_source h.1 fun hl => breaks_layout hl h.2
    refine ⟨⟨l, placeBehind (before ++ gap)⟩ :: tokens, ?_, congrArg (l :: ·) ht⟩
    rw [layout, List.append_assoc, ← List.append_assoc gap]
    exact .token (gap_of_blank hg _) hf hc

/-- The tokens of a layout are the lexemes that were laid out. -/
theorem ofText_layout {ls : List Lexeme} (h : ∀ l ∈ ls, IsWritable l) :
    ∃ t, Tokens.ofText (String.ofList (layout ls)) = .ok t ∧ t.lexemes = ls := by
  obtain ⟨tokens, hc, ht⟩ := cut_layout h [] fun c hc => absurd hc List.not_mem_nil
  rw [List.nil_append, ← String.toList_ofList (l := layout ls)] at hc
  obtain ⟨rfl, hs⟩ := hc.scan
  refine ⟨_, ofText_eq_ok.2 ⟨hs, rfl⟩, ?_⟩
  rw [tokensBehind, Tokens.withEnd, List.map_append] at ht
  exact List.append_cancel_right ht

end ServiceScaffold.Schema.Printing

import ServiceScaffold.Proofs.Printing.Layout
import ServiceScaffold.Proofs.Schema.Concatenation

/-!
# Layout does not matter

`Laid ls text` says that the text is made of sources of these lexemes with gaps between them. When the
lexemes are those of some text, they are the lexemes of every text laid out from them
(`ofText_of_laid`): a lexeme is read from each of its sources wherever a blank character ends it. What
is read depends on the lexemes alone, and what is blamed is the token that has the same number
(`ofText_of_respaced`).
-/
namespace ServiceScaffold.Schema
open Text Lexer Lexical

/-! ## Texts laid out from lexemes -/

/-- A literal may have any quotes that its contents allow, and what else there is stands as it is. -/
inductive IsSource : Lexeme → List Char → Prop
  | literal {quote : Char} {s : String} : isQuote quote = true → LiteralBody quote s.toList →
      IsSource ⟨.string, s⟩ (quote :: (s.toList ++ [quote]))
  | verbatim {l : Lexeme} : l.kind ≠ .string → IsSource l l.text.toList

/-- What may stand behind a lexeme: the others, each behind a gap that starts with a blank
character, and such a gap at the end if there is anything. -/
inductive Spaced : List Lexeme → List Char → Prop
  | stop : Spaced [] []
  | gap {c gap} : isBlank c = true → Gap gap [] → Spaced [] (c :: gap)
  | lexeme {c gap l source ls rest} : isBlank c = true → Gap gap (source ++ rest) →
      IsSource l source → Spaced ls rest → Spaced (l :: ls) (c :: (gap ++ source ++ rest))

/-- The first gap may start with anything. -/
inductive Laid : List Lexeme → List Char → Prop
  | nil {gap} : Gap gap [] → Laid [] gap
  | cons {gap l source ls rest} : Gap gap (source ++ rest) → IsSource l source → Spaced ls rest →
      Laid (l :: ls) (gap ++ source ++ rest)

/-! ## Forms -/

/-- Nothing stands here, or a blank character. -/
def Apart (rest : List Char) : Prop :=
  ∀ c ∈ rest.head?, isBlank c = true

theorem Spaced.apart {ls : List Lexeme} {s : List Char} (h : Spaced ls s) : Apart s := by
  cases h with
  | stop => exact fun c hc => nomatch hc
  | gap hc _ =>
    rintro d ⟨⟩
    exact hc
  | lexeme hc _ _ _ =>
    rintro d ⟨⟩
    exact hc

theorem isBreak_of_isBlank {c : Char} (h : isBlank c = true) : isBreak c = true := by
  rw [isBreak, h, Bool.true_or]

theorem Apart.breaks {rest : List Char} (h : Apart rest) : Printing.Breaks rest :=
  fun c hc => isBreak_of_isBlank (h c hc)

theorem startsNothing_of_apart {c : Char} {rest rest' : List Char} (h : StartsNothing c rest)
    (hr : Apart rest') : StartsNothing c rest' := by
  rw [startsNothing_iff] at h ⊢
  obtain ⟨hb, _, hd, hq, hn, hw⟩ := h
  have number : startsNumber c none = false := by
    cases hnext : rest.head? with
    | none => exact hnext ▸ hn
    | some d =>
      rw [hnext] at hn
      simp only [startsNumber, Option.any_some, Option.any_none, Bool.or_eq_false_iff] at hn ⊢
      simp_all
  have word : startsWord c none = false := by
    simp only [startsWord, Bool.or_eq_false_iff] at hw ⊢
    simp [hw.1]
  cases rest' with
  | nil =>
    refine ⟨hb, comment?_eq_none.2 fun _ => ⟨?_, ?_⟩, hd, hq, number, word⟩
    · rintro ⟨⟩
    · rintro ⟨⟩
  | cons d rest' =>
    have hblank : isBlank d = true := hr d rfl
    have hbreak := isBreak_of_isBlank hblank
    refine ⟨hb, comment?_eq_none.2 fun _ => ⟨?_, ?_⟩, hd, hq,
      (startsNumber_before_break c hbreak).trans number,
      (startsWord_before_break c hbreak).trans word⟩
    · rintro ⟨⟩
      exact absurd hblank (by decide)
    · rintro ⟨⟩
      exact absurd hblank (by decide)

/-- What has been read from one source is read from any other one that stands apart. -/
theorem form_of_isSource {l : Lexeme} {source rest source' rest' : List Char}
    (h : Form l source rest) (hs : IsSource l source') (hr : Apart rest') :
    Form l source' rest' := by
  cases hs with
  | literal hq hb => exact Printing.form_literal hq hb rest'
  | verbatim hs =>
    cases h with
    | delimiter d =>
      rw [Lexeme.ofDelimiter, String.toList_singleton]
      exact .delimiter d
    | string hq hb => exact absurd rfl hs
    | number h =>
      rw [String.toList_ofList]
      exact .number (Printing.longest_number h.run hr.breaks)
    | keyword k h hk =>
      rw [String.toList_ofList]
      exact .keyword k (Printing.longest_word h.run hr.breaks) hk
    | ident h hk =>
      rw [String.toList_ofList]
      exact .ident (Printing.longest_word h.run hr.breaks) hk
    | symbol h =>
      rw [String.toList_singleton]
      exact .symbol (startsNothing_of_apart h hr)

/-- Each token of a text but the last has been read from some source. -/
theorem forms_of_cut {before s : List Char} {tokens : List Token} (h : Cut before s tokens) :
    ∃ front stop, tokens = front ++ [⟨.endOfInput, stop⟩] ∧
      ∀ token ∈ front, ∃ source rest, Form token.lexeme source rest := by
  induction h with
  | stop => exact ⟨[], _, rfl, fun _ h => absurd h List.not_mem_nil⟩
  | @token before gap l source rest tokens _ hf _ ih =>
    obtain ⟨front, stop, rfl, hforms⟩ := ih
    refine ⟨⟨l, _⟩ :: front, stop, rfl, ?_⟩
    intro token ht
    rcases List.mem_cons.1 ht with rfl | ht
    · exact ⟨source, rest, hf⟩
    · exact hforms token ht

theorem form_of_mem_lexemes {text : String} {t : Tokens} (h : Tokens.ofText text = .ok t)
    {l : Lexeme} (hl : l ∈ t.lexemes) : ∃ source rest, Form l source rest := by
  obtain ⟨front, stop, he, hforms⟩ := forms_of_cut (cut_of_ofText h)
  obtain ⟨rfl, _⟩ := List.append_inj' he rfl
  obtain ⟨token, ht, rfl⟩ := List.mem_map.1 hl
  exact hforms token ht

/-! ## Texts -/

theorem Spaced.cut {ls : List Lexeme} {s : List Char} (h : Spaced ls s)
    (hforms : ∀ l ∈ ls, ∃ source rest, Form l source rest) (before : List Char) :
    ∃ t : Tokens, Cut before s t.withEnd ∧ t.lexemes = ls := by
  induction h generalizing before with
  | stop => exact ⟨⟨[], _⟩, .stop .nil, rfl⟩
  | gap hc hg => exact ⟨⟨[], _⟩, .stop (.blank hc hg), rfl⟩
  | @lexeme c gap l source ls rest hc hg hs hrest ih =>
    obtain ⟨source', rest', hf⟩ := hforms l List.mem_cons_self
    obtain ⟨t, ht, hl⟩ := ih (fun l hl => hforms l (List.mem_cons_of_mem _ hl))
      (before ++ (c :: gap) ++ source)
    have hcut := Cut.token (Gap.blank hc hg) (form_of_isSource hf hs hrest.apart) ht
    exact ⟨⟨⟨l, _⟩ :: t.tokens, t.stop⟩, hcut, congrArg (l :: ·) hl⟩

/-- The lexemes of a text are those of any text laid out from them. -/
theorem ofText_of_laid {text text' : String} {t : Tokens} (ht : Tokens.ofText text = .ok t)
    (h : Laid t.lexemes text'.toList) :
    ∃ t', Tokens.ofText text' = .ok t' ∧ t'.lexemes = t.lexemes := by
  have hforms : ∀ l ∈ t.lexemes, ∃ source rest, Form l source rest :=
    fun l hl => form_of_mem_lexemes ht hl
  generalize t.lexemes = ls at h hforms
  generalize hs : text'.toList = s at h
  cases h with
  | nil hg => exact ⟨⟨[], _⟩, ofText_of_cut (hs ▸ Cut.stop hg), rfl⟩
  | @cons gap l source ls rest hg hsource hrest =>
    obtain ⟨source', rest', hf⟩ := hforms l List.mem_cons_self
    obtain ⟨t', ht', hl⟩ := hrest.cut (fun l hl => hforms l (List.mem_cons_of_mem _ hl))
      ([] ++ gap ++ source)
    have hcut := Cut.token hg (form_of_isSource hf hsource hrest.apart) ht'
    exact ⟨⟨⟨l, _⟩ :: t'.tokens, t'.stop⟩, ofText_of_cut (hs ▸ hcut), congrArg (l :: ·) hl⟩

/-- The place of what is blamed is that of a token, the end of the input among them. -/
theorem Tokens.withEnd_getElem? (t : Tokens) (remaining : Nat) :
    ∃ l, t.withEnd[t.lexemes.length - remaining]? = some ⟨l, t.place remaining⟩ := by
  rw [lexemes, List.length_map, withEnd, place]
  cases h : t.tokens[t.tokens.length - remaining]? with
  | some token =>
    obtain ⟨hlt, _⟩ := List.getElem?_eq_some_iff.1 h
    exact ⟨token.lexeme, (List.getElem?_append_left hlt).trans h⟩
  | none =>
    have hle := List.getElem?_eq_none_iff.1 h
    have hlength : t.tokens.length - remaining = t.tokens.length := by omega
    exact ⟨.endOfInput, by rw [hlength, List.getElem?_concat_length]⟩

/-- However the lexemes of a text are spaced and its literals quoted, the text has the same lexemes and
is read as the same file, or refused for the same cause at the token with the same number. -/
theorem ofText_of_respaced {text text' : String} {t : Tokens} (ht : Tokens.ofText text = .ok t)
    (h : Laid t.lexemes text'.toList) :
    ∃ t', Tokens.ofText text' = .ok t' ∧ t'.lexemes = t.lexemes ∧
      (∀ f, File.ofText text = .ok f → File.ofText text' = .ok f) ∧
      ∀ e, File.ofText text = .error e → ∃ (i : Nat) (token token' : Token),
        t.withEnd[i]? = some token ∧ t'.withEnd[i]? = some token' ∧
          e.position = token.position ∧ File.ofText text' = .error ⟨e.cause, token'.position⟩ := by
  obtain ⟨t', ht', hl⟩ := ofText_of_laid ht h
  rw [ofText_eq_of_tokens ht, ofText_eq_of_tokens ht', hl]
  refine ⟨t', ht', hl, ?_⟩
  cases Grammar.file t.lexemes with
  | ok f =>
    refine ⟨fun _ h => h, ?_⟩
    rintro e ⟨⟩
  | error fault =>
    constructor
    · rintro f ⟨⟩
    · rintro e ⟨⟩
      obtain ⟨l, hi⟩ := t.withEnd_getElem? fault.remaining
      obtain ⟨l', hi'⟩ := t'.withEnd_getElem? fault.remaining
      rw [hl] at hi'
      exact ⟨_, _, _, hi, hi', rfl, rfl⟩

/-- Other quotes, and a comment in front of the lexeme that is blamed. -/
theorem ofText_of_respaced_import :
    ∃ t, Tokens.ofText "import\"a\"1" = .ok t ∧ Laid t.lexemes "import 'a' /**/1".toList ∧
      (∃ t', Tokens.ofText "import 'a' /**/1" = .ok t' ∧ t'.lexemes = t.lexemes) ∧
      File.ofText "import\"a\"1" =
        .error ⟨.expected (.delimiter .semicolon) ⟨.number, "1"⟩, ⟨1, 10⟩⟩ ∧
      ∃ p, File.ofText "import 'a' /**/1" =
        .error ⟨.expected (.delimiter .semicolon) ⟨.number, "1"⟩, p⟩ := by
  have ht : Tokens.ofText "import\"a\"1" = .ok
      ⟨[⟨⟨.keyword .importMark, "import"⟩, ⟨1, 1⟩⟩, ⟨⟨.string, "a"⟩, ⟨1, 7⟩⟩,
        ⟨⟨.number, "1"⟩, ⟨1, 10⟩⟩], ⟨1, 11⟩⟩ := by
    decide +kernel
  have htext : "import 'a' /**/1".toList = [] ++ ['i', 'm', 'p', 'o', 'r', 't'] ++
      (' ' :: ([] ++ ['\'', 'a', '\''] ++ (' ' :: (['/', '*', '*', '/'] ++ ['1'] ++ [])))) := by
    decide
  have hquoted : IsSource ⟨.string, "a"⟩ ['\'', 'a', '\''] :=
    .literal (by decide : isQuote '\'' = true)
      (.plain (by decide) (by decide) (by decide) .nil)
  have hcomment : Comment ['/', '*', '*', '/'] ([] ++ ['1']) :=
    .block (by decide : ¬ ['*', '/'] <:+: [])
  have hgap : Gap ['/', '*', '*', '/'] ['1'] := Gap.comment hcomment (Gap.nil : Gap [] ['1'])
  have hl : Laid [⟨.keyword .importMark, "import"⟩, ⟨.string, "a"⟩, ⟨.number, "1"⟩]
      "import 'a' /**/1".toList := by
    rw [htext]
    exact .cons .nil (.verbatim (by decide)) <| .lexeme rfl .nil hquoted <|
      .lexeme rfl hgap (.verbatim (by decide)) .stop
  have he : File.ofText "import\"a\"1" =
      .error ⟨.expected (.delimiter .semicolon) ⟨.number, "1"⟩, ⟨1, 10⟩⟩ :=
    (ofText_eq_of_tokens ht).trans (by with_unfolding_all rfl)
  obtain ⟨t', ht', hlexemes, _, hrefused⟩ := ofText_of_respaced ht hl
  obtain ⟨_, _, token', _, _, _, hr⟩ := hrefused _ he
  exact ⟨_, ht, hl, ⟨t', ht', hlexemes⟩, he, token'.position, hr⟩

end ServiceScaffold.Schema

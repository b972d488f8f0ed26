import ServiceScaffold.Proofs.Lexical.Runs

/-!
# Tokens of a text

The scanner finds a cut of the text into gaps and lexemes whenever there is one, and there is at
most one: `ofText_eq_ok_iff_cut`. Both halves go piece by piece, with the text before the piece
as what the places depend on.
-/
namespace ServiceScaffold.Schema.Lexical
open Text Lexer

/-! ## Literals -/

theorem stringBody?_of_literalBody {quote : Char} {body : List Char} (hq : isQuote quote = true)
    (h : LiteralBody quote body) (rest : List Char) :
    stringBody? quote (body ++ quote :: rest) = some (body, rest) := by
  have hb : '\\' ≠ quote := by
    rintro rfl
    exact absurd hq (by decide)
  induction h with
  | nil => rw [List.nil_append, stringBody?.eq_def]; simp
  | plain hc hn hs _ ih =>
    rw [List.cons_append, stringBody?.eq_def]
    simp [hc, hn, hs, ih]
  | escaped _ ih =>
    rw [List.cons_append, List.cons_append, stringBody?.eq_def]
    simp [hb, ih]

theorem literalBody_of_stringBody? {quote : Char} {cs body rest : List Char}
    (h : stringBody? quote cs = some (body, rest)) : LiteralBody quote body := by
  fun_induction stringBody? quote cs generalizing body with
  | case1 => cases h
  | case2 cs => cases h; exact .nil
  | case3 => cases h
  | case4 => cases h
  | case5 d ds _ _ ih =>
    obtain ⟨⟨b, r⟩, hb, he⟩ := Option.map_eq_some_iff.1 h
    cases he
    exact .escaped (ih hb)
  | case6 c cs hq hn hs ih =>
    obtain ⟨⟨b, r⟩, hb, he⟩ := Option.map_eq_some_iff.1 h
    cases he
    exact .plain hq hn hs (ih hb)

/-! ## First characters -/

theorem isBreak_eq_false {c : Char} {next : Option Char}
    (h : startsNumber c next = true ∨ startsWord c next = true) : isBreak c = false := by
  refine Bool.eq_false_iff.2 ?_
  intro hb
  obtain ⟨hw, hu, hd, hs⟩ := of_isBreak hb
  rw [startsNumber_eq_false hw hs hd, startsWord_eq_false hw hu hd] at h
  rcases h with h | h <;> cases h

/-- No break stands in a word or in a number. -/
theorem WordRun.isBreak_eq_false {s : List Char} (h : WordRun s) {c : Char} (hc : c ∈ s) :
    isBreak c = false := by
  obtain ⟨front, behind, rfl⟩ := List.append_of_mem hc
  refine Bool.eq_false_iff.2 ?_
  intro hb
  obtain ⟨hw, hu, hd, _⟩ := of_isBreak hb
  rcases h.continues c behind (List.suffix_append _ _) with h | h | ⟨h, _⟩
  · rw [hw] at h
    cases h
  · exact hu h
  · exact hd h

theorem NumberRun.isBreak_eq_false {s : List Char} (h : NumberRun s) {c : Char} (hc : c ∈ s) :
    isBreak c = false := by
  obtain ⟨front, behind, rfl⟩ := List.append_of_mem hc
  obtain ⟨d, ds, he, hs⟩ := h.starts
  rcases List.eq_nil_or_concat' front with rfl | ⟨front, last, rfl⟩
  · obtain ⟨rfl, rfl⟩ := List.cons.inj he
    exact Lexical.isBreak_eq_false (.inl hs)
  · refine Bool.eq_false_iff.2 ?_
    intro hb
    obtain ⟨hw, hu, hd, hsign⟩ := of_isBreak hb
    have hlast : (front ++ [last]).getLast? = some last := List.getLast?_concat
    rcases (List.isChain_append.1 h.continues).2.2 last hlast c rfl with h | h | h | ⟨h, _⟩
    · rw [hw] at h
      cases h
    · exact hu h
    · exact hd h
    · rw [hsign] at h
      cases h

/-- A break that stands next starts a number or a word no more than the end of the text does. -/
theorem startsNumber_before_break (c : Char) {d : Char} (h : isBreak d = true) :
    startsNumber c (some d) = startsNumber c none := by
  obtain ⟨hw, _, hd, _⟩ := of_isBreak h
  have hdigit : isDigit d = false := Bool.eq_false_iff.2 fun e => by
    rw [isWordPart_of_isDigit e] at hw
    cases hw
  simp [startsNumber, hdigit, hd]

theorem startsWord_before_break (c : Char) {d : Char} (h : isBreak d = true) :
    startsWord c (some d) = startsWord c none := by
  obtain ⟨hw, hu, _, _⟩ := of_isBreak h
  have hletter : isLetter d = false := Bool.eq_false_iff.2 fun e => by
    rw [isWordPart_of_isLetter e] at hw
    cases hw
  simp [startsWord, startsName, hletter, hu]

theorem comment?_eq_none {c : Char} {cs : List Char} :
    comment? c cs = none ↔ c = '/' → cs.head? ≠ some '/' ∧ cs.head? ≠ some '*' := by
  unfold comment?
  split
  · next hc => exact iff_of_true rfl fun e => absurd e hc
  · next hc =>
    rw [Decidable.not_not] at hc
    split <;> simp_all [List.head?_eq_some_iff]

theorem comment?_of_ne {c : Char} (h : c ≠ '/') (cs : List Char) : comment? c cs = none := by
  simp [comment?, h]

/-- Where a number or a word starts, nothing else does. -/
theorem piece?_of_starts {c : Char} {cs : List Char}
    (h : startsNumber c cs.head? = true ∨ startsWord c cs.head? = true) :
    piece? c cs = (if startsNumber c cs.head? = true then
        some (.lexeme ⟨.number, String.ofList (c :: (numberTail (isHex (c :: cs)) c cs).1)⟩
          (c :: (numberTail (isHex (c :: cs)) c cs).1), (numberTail (isHex (c :: cs)) c cs).2)
      else some (.lexeme (.ofWord (String.ofList (c :: (wordTail cs).1))) (c :: (wordTail cs).1),
        (wordTail cs).2)) := by
  have hb := isBreak_eq_false h
  rw [isBreak, Bool.or_eq_false_iff, Option.isSome_eq_false_iff, Option.isNone_iff_eq_none] at hb
  have hq : isQuote c = false := Bool.eq_false_iff.2 fun hq => by
    obtain ⟨hn, hw⟩ := starts_of_isQuote hq cs.head?
    rw [hn, hw] at h
    rcases h with h | h <;> cases h
  have hs : c ≠ '/' := by
    rintro rfl
    obtain ⟨hn, hw⟩ := starts_slash cs.head?
    rw [hn, hw] at h
    rcases h with h | h <;> cases h
  rw [piece?, hb.1, comment?_of_ne hs, lexeme?, hb.2, hq]
  by_cases hn : startsNumber c cs.head? = true
  · simp [hn]
  · simp [hn, h.resolve_left hn]

/-! ## Forms -/

theorem ofWord_keyword {text : String} {k : Keyword} (h : text = k.text) :
    Lexeme.ofWord text = ⟨.keyword k, text⟩ := by
  rw [Lexeme.ofWord, h, Keyword.ofText?_text]

theorem ofWord_ident {text : String} (h : ∀ k : Keyword, text ≠ k.text) :
    Lexeme.ofWord text = ⟨.ident, text⟩ := by
  rw [Lexeme.ofWord]
  split
  · next k hk => exact absurd (Keyword.text_of_ofText? hk).symm (h k)
  · rfl

theorem form_ofWord {source rest : List Char} (h : Longest WordRun source rest) :
    Form (.ofWord (String.ofList source)) source rest := by
  by_cases hk : ∃ k : Keyword, String.ofList source = k.text
  · obtain ⟨k, hk⟩ := hk
    rw [ofWord_keyword hk]
    exact .keyword k h hk
  · rw [not_exists] at hk
    rw [ofWord_ident hk]
    exact .ident h hk

theorem startsNumber_of_run {c : Char} {rest run : List Char} (hp : run <+: c :: rest)
    (h : NumberRun run) : startsNumber c rest.head? = true := by
  obtain ⟨d, ds, rfl, hs⟩ := h.starts
  obtain ⟨rfl, hds⟩ := List.cons_prefix_cons.1 hp
  exact startsNumber_of_prefix hs hds

theorem startsWord_of_run {c : Char} {rest run : List Char} (hp : run <+: c :: rest)
    (h : WordRun run) : startsWord c rest.head? = true := by
  obtain ⟨d, ds, rfl, hs⟩ := h.starts
  obtain ⟨rfl, hds⟩ := List.cons_prefix_cons.1 hp
  exact startsWord_of_prefix hs hds

theorem startsNothing_iff {c : Char} {rest : List Char} :
    StartsNothing c rest ↔ isBlank c = false ∧ comment? c rest = none ∧
      Delimiter.ofChar? c = none ∧ isQuote c = false ∧ startsNumber c rest.head? = false ∧
      startsWord c rest.head? = false := by
  constructor
  · intro h
    refine ⟨h.blank, ?_, Delimiter.ofChar?_eq_none.2 h.delimiter, h.quote, ?_, ?_⟩
    · refine Option.eq_none_iff_forall_not_mem.2 fun ⟨source, behind⟩ hc => ?_
      exact h.comment source behind (comment?_append hc) (comment_of_comment? hc)
    · refine Bool.eq_false_iff.2 ?_
      intro hs
      have happ := numberTail_append (isHex (c :: rest)) c rest
      exact h.number _ ⟨_, congrArg (c :: ·) happ⟩ (longest_numberTail hs).run
    · refine Bool.eq_false_iff.2 ?_
      intro hs
      exact h.word _ ⟨_, congrArg (c :: ·) (wordTail_append rest)⟩ (longest_wordTail hs).run
  · rintro ⟨hb, hc, hd, hq, hn, hw⟩
    refine ⟨hb, fun source behind he h => ?_, Delimiter.ofChar?_eq_none.1 hd, hq,
      fun run hp h => ?_, fun run hp h => ?_⟩
    · obtain ⟨d, ds, he', hs⟩ := comment?_eq_some h
      obtain ⟨rfl, rfl⟩ := List.cons.inj (he.symm.trans he')
      rw [hc] at hs
      cases hs
    · rw [startsNumber_of_run hp h] at hn
      cases hn
    · rw [startsWord_of_run hp h] at hw
      cases hw

theorem piece?_of_longest_word {source rest : List Char} (h : Longest WordRun source rest) :
    ∃ c cs, source ++ rest = c :: cs ∧
      piece? c cs = some (.lexeme (.ofWord (String.ofList source)) source, rest) := by
  obtain ⟨c, cs, rfl, hs⟩ := h.run.starts
  have hs := startsWord_of_prefix hs (List.prefix_append cs rest)
  refine ⟨c, cs ++ rest, rfl, ?_⟩
  rw [piece?_of_starts (.inr hs), startsNumber_of_startsWord hs, h.wordTail]
  rfl

/-- The scanner reads every form. -/
theorem piece?_of_form {l : Lexeme} {source rest : List Char} (h : Form l source rest) :
    ∃ c cs, source ++ rest = c :: cs ∧ piece? c cs = some (.lexeme l source, rest) := by
  cases h with
  | delimiter d =>
    refine ⟨d.char, rest, rfl, ?_⟩
    have hd : d.char ≠ '/' := by cases d <;> decide
    rw [piece?, isBlank_delimiter, comment?_of_ne hd, lexeme?, Delimiter.ofChar?_char]
    rfl
  | @string quote body rest hq hb =>
    refine ⟨quote, body ++ quote :: rest, by simp, ?_⟩
    have hd : quote ≠ '/' := by
      rintro rfl
      exact absurd hq (by decide)
    rw [piece?, isBlank_of_isQuote hq, comment?_of_ne hd, lexeme?, ofChar?_of_isQuote hq, hq,
      stringBody?_of_literalBody hq hb]
    rfl
  | number h =>
    obtain ⟨c, cs, rfl, hs⟩ := h.run.starts
    have hs := startsNumber_of_prefix hs (List.prefix_append cs rest)
    refine ⟨c, cs ++ rest, rfl, ?_⟩
    rw [piece?_of_starts (.inl hs), hs, h.numberTail]
    rfl
  | keyword k h hk =>
    rw [← ofWord_keyword hk]
    exact piece?_of_longest_word h
  | ident h hk =>
    rw [← ofWord_ident hk]
    exact piece?_of_longest_word h
  | @symbol c rest h =>
    obtain ⟨hb, hc, hd, hq, hn, hw⟩ := startsNothing_iff.1 h
    refine ⟨c, rest, rfl, ?_⟩
    rw [piece?, hb, hc, lexeme?, hd, hq, hn, hw]
    rfl

/-- The scanner reads nothing but forms. -/
theorem form_of_lexeme? {c : Char} {cs source rest : List Char} {l : Lexeme}
    (hb : isBlank c = false) (hc : comment? c cs = none)
    (h : lexeme? c cs = some (l, source, rest)) : Form l source rest := by
  unfold lexeme? at h
  split at h
  · next d hd =>
    cases h
    rw [← Delimiter.char_of_ofChar? hd]
    exact .delimiter d
  · next hd =>
    split at h
    · next hq =>
      obtain ⟨⟨b, r⟩, hs, he⟩ := Option.map_eq_some_iff.1 h
      cases he
      exact .string hq (literalBody_of_stringBody? hs)
    · next hq =>
      split at h
      · next hn =>
        cases h
        exact .number (longest_numberTail hn)
      · next hn =>
        split at h
        · next hw =>
          cases h
          exact form_ofWord (longest_wordTail hw)
        · next hw =>
          cases h
          rw [Bool.not_eq_true] at hq hn hw
          exact .symbol (startsNothing_iff.2 ⟨hb, hc, hd, hq, hn, hw⟩)

/-! ## Places -/

theorem placeBehind_eq (before : List Char) : placeBehind before = Position.start.after before := by
  by_cases h : '\n' ∈ before
  · -- the text is cut at its last line feed
    obtain ⟨behind, front, hs, hb⟩ := List.eq_append_cons_of_mem (List.mem_reverse.2 h)
    have hb' : '\n' ∉ behind.reverse := fun e => hb (List.mem_reverse.1 e)
    have hrev : before = front.reverse ++ '\n' :: behind.reverse := by
      simpa using congrArg List.reverse hs
    have hcol : before.reverse.takeWhile (· ≠ '\n') = behind := by
      rw [hs]
      exact (line_split hb (.inr rfl)).1
    rw [placeBehind, hcol, hrev, Position.after_append_newline Position.start _ hb']
    simp only [List.count_append, List.count_cons_self, List.count_eq_zero.2 hb',
      List.length_reverse, Position.start, Position.mk.injEq]
    omega
  · have hcol : before.reverse.takeWhile (· ≠ '\n') = before.reverse := by
      have hl := @line_split before.reverse [] (fun e => h (List.mem_reverse.1 e)) (.inl rfl)
      rw [List.append_nil] at hl
      exact hl.1
    rw [placeBehind, hcol, Position.after_eq_of_not_mem h, List.count_eq_zero.2 h,
      List.length_reverse]
    rfl

/-! ## Cuts -/

theorem scan_of_piece? {c : Char} {cs rest : List Char} {p : Piece}
    (h : piece? c cs = some (p, rest)) : scan (c :: cs) = (p :: (scan rest).1, (scan rest).2) := by
  rw [scan]
  split
  · next hp => rw [hp] at h; cases h
  · next hp => rw [hp] at h; cases h; rfl

/-- The tokens of what follows `before`, the end of the input among them. -/
def tokensBehind (before s : List Char) : List Token :=
  (Tokens.ofPieces (Position.start.after before) (scan s).1).withEnd

theorem tokensBehind_of_piece? {c : Char} {cs rest before : List Char} {p : Piece}
    (h : piece? c cs = some (p, rest)) (hp : ∀ l s, p ≠ .lexeme l s) :
    tokensBehind before (c :: cs) = tokensBehind (before ++ p.source) rest := by
  rw [tokensBehind, scan_of_piece? h, tokensBehind, Position.after_append]
  cases p with
  | lexeme l s => exact absurd rfl (hp l s)
  | blank c => rfl
  | comment s => rfl

theorem tokensBehind_of_lexeme {c : Char} {cs rest source before : List Char} {l : Lexeme}
    (h : piece? c cs = some (.lexeme l source, rest)) :
    tokensBehind before (c :: cs) =
      ⟨l, Position.start.after before⟩ :: tokensBehind (before ++ source) rest := by
  rw [tokensBehind, scan_of_piece? h, Tokens.ofPieces, tokensBehind, Position.after_append]
  rfl

/-- The scanner passes over a gap. -/
theorem Gap.scan {gap rest : List Char} (h : Gap gap rest) (before : List Char) :
    tokensBehind before (gap ++ rest) = tokensBehind (before ++ gap) rest ∧
      (Lexer.scan (gap ++ rest)).2 = (Lexer.scan rest).2 := by
  induction h generalizing before with
  | nil => simp
  | @blank c gap rest hc _ ih =>
    have hp : piece? c (gap ++ rest) = some (.blank c, gap ++ rest) := by rw [piece?, hc]; rfl
    obtain ⟨ht, hs⟩ := ih (before ++ [c])
    rw [List.cons_append, tokensBehind_of_piece? hp (by simp), scan_of_piece? hp]
    exact ⟨by simpa [Piece.source] using ht, hs⟩
  | @comment source gap rest hc _ ih =>
    obtain ⟨c, cs, he, hs⟩ := comment?_eq_some hc
    have hb : isBlank c = false := by
      have : c = '/' := by
        by_contra hne
        rw [comment?_of_ne hne] at hs
        cases hs
      rw [this]
      decide
    have hp : piece? c cs = some (.comment source, gap ++ rest) := by rw [piece?, hb, hs]; rfl
    obtain ⟨ht, hr⟩ := ih (before ++ source)
    rw [List.append_assoc, he, tokensBehind_of_piece? hp (by simp), scan_of_piece? hp]
    exact ⟨by simpa [Piece.source] using ht, hr⟩

/-- The scanner finds any cut there is. -/
theorem Cut.scan {before s : List Char} {tokens : List Token} (h : Cut before s tokens) :
    tokens = tokensBehind before s ∧ (Lexer.scan s).2 = [] := by
  induction h with
  | @stop before gap hg =>
    obtain ⟨ht, hs⟩ := hg.scan before
    rw [List.append_nil] at ht hs
    rw [ht, hs, placeBehind_eq, tokensBehind, Lexer.scan]
    exact ⟨rfl, rfl⟩
  | @token before gap l source rest tokens hg hf _ ih =>
    obtain ⟨ht, hs⟩ := hg.scan before
    obtain ⟨c, cs, he, hp⟩ := piece?_of_form hf
    rw [List.append_assoc, ht, hs, he, tokensBehind_of_lexeme hp, scan_of_piece? hp, placeBehind_eq,
      ← ih.1]
    exact ⟨rfl, ih.2⟩

/-- A cut whose first gap may be widened. -/
theorem Cut.widen {before front s : List Char} {tokens : List Token}
    (hw : ∀ gap rest, gap ++ rest = s → Gap gap rest → Gap (front ++ gap) rest)
    (h : Cut (before ++ front) s tokens) : Cut before (front ++ s) tokens := by
  cases h with
  | stop hg =>
    rw [List.append_assoc]
    exact .stop (hw s [] (List.append_nil s) hg)
  | @token _ gap l source rest tokens hg hf ht =>
    have hgap := hw gap (source ++ rest) (by rw [List.append_assoc]) hg
    rw [List.append_assoc before] at ht ⊢
    rw [← List.append_assoc, ← List.append_assoc]
    exact .token hgap hf ht

/-- What the scanner finds in a text that it reads to the end is a cut. -/
theorem cut_tokensBehind {s : List Char} (h : (Lexer.scan s).2 = []) (before : List Char) :
    Cut before s (tokensBehind before s) := by
  fun_induction Lexer.scan s generalizing before with
  | case1 =>
    have hstop : Cut before [] [⟨.endOfInput, placeBehind (before ++ [])⟩] := .stop .nil
    rw [placeBehind_eq, List.append_nil] at hstop
    rw [tokensBehind, Lexer.scan]
    exact hstop
  | case2 c cs hp => cases h
  | case3 c cs p rest hp _ ih =>
    have hs := ih h (before ++ p.source)
    have happ := piece?_append hp
    unfold piece? at hp
    split at hp
    · next hb =>
      cases hp
      rw [tokensBehind_of_piece? (by rw [piece?, if_pos hb]) (by simp)]
      exact @Cut.widen before [c] cs _ (fun gap rest _ hg => .blank hb hg) hs
    · next hb =>
      split at hp
      · next hc =>
        cases hp
        rw [tokensBehind_of_piece? (by rw [piece?, if_neg hb, hc]) (by simp), ← happ]
        exact Cut.widen (fun gap rest he hg => .comment (he ▸ comment_of_comment? hc) hg) hs
      · next hc =>
        obtain ⟨⟨l, source, r⟩, hl, he⟩ := Option.map_eq_some_iff.1 hp
        cases he
        rw [tokensBehind_of_lexeme (by rw [piece?, if_neg hb, hc, hl]; rfl), ← happ]
        rw [Bool.not_eq_true] at hb
        rw [← List.append_nil before] at hs
        have hcut := Cut.token .nil (form_of_lexeme? hb hc hl) hs
        rw [placeBehind_eq, List.append_nil] at hcut
        exact hcut

/-! ## Texts -/

theorem withEnd_inj {t u : Tokens} : t.withEnd = u.withEnd ↔ t = u := by
  refine ⟨fun h => ?_, congrArg _⟩
  obtain ⟨ht, hs⟩ := List.append_inj' h rfl
  cases t
  cases u
  simp_all

theorem ofText_eq_ok {text : String} {t : Tokens} :
    Tokens.ofText text = .ok t ↔
      (Lexer.scan text.toList).2 = [] ∧ t.withEnd = tokensBehind [] text.toList := by
  simp only [Tokens.ofText, tokensBehind, Position.after_nil, List.isEmpty_iff]
  split
  · next hs => rw [Except.ok.injEq, withEnd_inj, eq_comm, and_iff_right hs]
  · next hs => exact ⟨(nomatch ·), fun h => absurd h.1 hs⟩

theorem ofText_of_cut {text : String} {t : Tokens} (h : Cut [] text.toList t.withEnd) :
    Tokens.ofText text = .ok t := by
  obtain ⟨ht, hs⟩ := h.scan
  exact ofText_eq_ok.2 ⟨hs, ht⟩

theorem cut_of_ofText {text : String} {t : Tokens} (h : Tokens.ofText text = .ok t) :
    Cut [] text.toList t.withEnd := by
  obtain ⟨hs, ht⟩ := ofText_eq_ok.1 h
  rw [ht]
  exact cut_tokensBehind hs []

/-- A text has tokens exactly when it can be cut into gaps and lexemes, and they are those of the
cut: nothing is lost, each lexeme has the form that its source dictates and is as long as can be,
and it stands where it is said to stand. -/
theorem ofText_eq_ok_iff_cut (text : String) (t : Tokens) :
    Tokens.ofText text = .ok t ↔ Cut [] text.toList t.withEnd :=
  ⟨cut_of_ofText, ofText_of_cut⟩

end ServiceScaffold.Schema.Lexical

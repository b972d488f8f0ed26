import ServiceScaffold.Proofs.Schema.Loops

/-!
# How deep the braces of a schema go

A parser takes lexemes at some depth and leaves off at another one (`Takes`), and every declaration
leaves off where it started. What stands in a statement of reserved numbers, in one of extensions and
between the brackets of a field's settings is passed over without a look at its braces, so that it is
told apart from the frame around it (`Spliced`). The braces of the frame are matched in every schema
that is read; those of the schema are where each stretch passed over is matched in itself
(`ofText_framed`).
-/
namespace ServiceScaffold.Schema

/-! ## Matched brackets -/

section Levels

variable {opening closing : Kind} {d e g : Nat} {ls ms : List Lexeme} {l : Lexeme}

/-- Nothing is closed that is not open, and all that is opened is closed. -/
def Matched (opening closing : Kind) (ls : List Lexeme) : Prop :=
  (∀ front, front <+: ls → front.countP (·.is closing) ≤ front.countP (·.is opening)) ∧
    ls.countP (·.is closing) = ls.countP (·.is opening)

/-- Where `d` brackets are open the lexemes close no more than are open, and leave `e` open. -/
structure Levels (opening closing : Kind) (d e : Nat) (ls : List Lexeme) : Prop where
  never : ∀ front, front <+: ls → front.countP (·.is closing) ≤ d + front.countP (·.is opening)
  ends : d + ls.countP (·.is opening) = e + ls.countP (·.is closing)

theorem matched_iff : Matched opening closing ls ↔ Levels opening closing 0 0 ls := by
  constructor
  · rintro ⟨hn, he⟩
    exact ⟨fun front hf => by simpa using hn front hf, by simpa using he.symm⟩
  · rintro ⟨hn, he⟩
    exact ⟨fun front hf => by simpa using hn front hf, by simpa using he.symm⟩

theorem Levels.nil : Levels opening closing d d [] :=
  ⟨fun front hf => by simp [List.prefix_nil.1 hf], rfl⟩

theorem Levels.append (h : Levels opening closing d e ls) (h' : Levels opening closing e g ms) :
    Levels opening closing d g (ls ++ ms) := by
  have he := h.ends
  have he' := h'.ends
  constructor
  · intro front hf
    rcases List.prefix_or_prefix_of_prefix hf (List.prefix_append ls ms) with hf' | ⟨behind, rfl⟩
    · exact h.never front hf'
    · have hb := h'.never behind ((List.prefix_append_right_inj ls).1 hf)
      simp only [List.countP_append]
      omega
  · simp only [List.countP_append]
    omega

theorem Levels.raise (h : Levels opening closing d e ls) (k : Nat) :
    Levels opening closing (d + k) (e + k) ls := by
  have he := h.ends
  refine ⟨fun front hf => ?_, by omega⟩
  have hn := h.never front hf
  omega

theorem Levels.single
    (he : d + [l].countP (·.is opening) = e + [l].countP (·.is closing)) :
    Levels opening closing d e [l] := by
  refine ⟨fun front hf => ?_, he⟩
  rcases List.prefix_cons_iff.1 hf with rfl | ⟨t, rfl, ht⟩
  · exact Nat.zero_le _
  · rw [List.prefix_nil.1 ht]
    omega

theorem Levels.cons (h : Levels opening closing d e [l]) (h' : Levels opening closing e g ms) :
    Levels opening closing d g (l :: ms) :=
  h.append h'

theorem Levels.uncons (h : Levels opening closing d g (l :: ms)) :
    ∃ e, Levels opening closing d e [l] ∧ Levels opening closing e g ms := by
  have hl := h.never [l] (List.prefix_append [l] ms)
  have he := h.ends
  rw [← List.singleton_append] at he
  simp only [List.countP_append] at he
  refine ⟨d + [l].countP (·.is opening) - [l].countP (·.is closing), .single (by omega), ?_,
    by omega⟩
  intro front hf
  have hn := h.never (l :: front) ((List.prefix_cons_inj l).2 hf)
  rw [← List.singleton_append] at hn
  simp only [List.countP_append] at hn
  omega

theorem Levels.opens (h : l.kind = opening) (hne : opening ≠ closing) :
    Levels opening closing d (d + 1) [l] :=
  .single (by simp [Lexeme.is, h, hne])

theorem Levels.closes (h : l.kind = closing) (hne : opening ≠ closing) :
    Levels opening closing (d + 1) d [l] :=
  .single (by simp [Lexeme.is, h, hne.symm])

theorem Levels.stays (ho : l.kind ≠ opening) (hc : l.kind ≠ closing) :
    Levels opening closing d d [l] :=
  .single (by simp [Lexeme.is, ho, hc])

/-- The search for a closing bracket passes over matched brackets. -/
theorem levels_of_closesBracket {depth : Nat} {taken : List Lexeme} (hne : opening ≠ closing)
    (h : Parser.ClosesBracket opening closing depth taken) :
    ∃ inner close, taken = inner ++ [close] ∧ close.kind = closing ∧
      Levels opening closing depth 0 inner := by
  induction h with
  | @last t _ hc => exact ⟨[], t, rfl, hc, .nil⟩
  | @opens _ t _ ho _ ih =>
    obtain ⟨inner, close, rfl, hk, hi⟩ := ih
    exact ⟨t :: inner, close, rfl, hk, (Levels.opens ho hne).cons hi⟩
  | @closes _ t _ _ hc _ ih =>
    obtain ⟨inner, close, rfl, hk, hi⟩ := ih
    exact ⟨t :: inner, close, rfl, hk, (Levels.closes hc hne).cons hi⟩
  | @other _ t _ ho hc _ ih =>
    obtain ⟨inner, close, rfl, hk, hi⟩ := ih
    exact ⟨t :: inner, close, rfl, hk, (Levels.stays ho hc).cons hi⟩

end Levels

/-- No brace is closed that is not open, and none is left open. -/
abbrev BracesMatch (ls : List Lexeme) : Prop :=
  Matched (.delimiter .lbrace) (.delimiter .rbrace) ls

/-! ## Frames -/

/-- The lexemes are those of the frame with stretches put in that nobody looks at: behind the keyword
of a statement of reserved numbers or of extensions, up to its semicolon, and between the brackets of
the settings of a field. -/
inductive Spliced : List Lexeme → List Lexeme → List (List Lexeme) → Prop
  | nil : Spliced [] [] []
  | keep {l ls frame loose} : Spliced ls frame loose → Spliced (l :: ls) (l :: frame) loose
  | statement {mark stop stretch ls frame loose} :
      mark.kind = .keyword .reserved ∨ mark.kind = .keyword .extensions →
      (∀ l ∈ stretch, l.kind ≠ .delimiter .semicolon) → stop.kind = .delimiter .semicolon →
      Spliced ls frame loose →
      Spliced (mark :: (stretch ++ stop :: ls)) (mark :: stop :: frame) (stretch :: loose)
  | settings {opening closing stretch ls frame loose} : opening.kind = .delimiter .lbracket →
      Matched (.delimiter .lbracket) (.delimiter .rbracket) stretch →
      closing.kind = .delimiter .rbracket → Spliced ls frame loose →
      Spliced (opening :: (stretch ++ closing :: ls)) (opening :: closing :: frame)
        (stretch :: loose)

section Frames

variable {ls frame ms frame' : List Lexeme} {loose loose' : List (List Lexeme)} {d e g : Nat}

theorem Spliced.refl : (ls : List Lexeme) → Spliced ls ls []
  | [] => .nil
  | _ :: ls => .keep (refl ls)

theorem Spliced.append (h : Spliced ls frame loose) (h' : Spliced ms frame' loose') :
    Spliced (ls ++ ms) (frame ++ frame') (loose ++ loose') := by
  induction h with
  | nil => exact h'
  | keep _ ih => exact .keep ih
  | statement hm hs ht _ ih =>
    have hstep := Spliced.statement hm hs ht ih
    simpa using hstep
  | settings ho hm hc _ ih =>
    have hstep := Spliced.settings ho hm hc ih
    simpa using hstep

theorem Matched.levels {opening closing : Kind} (h : Matched opening closing ls) (d : Nat) :
    Levels opening closing d d ls := by
  have hr := (matched_iff.1 h).raise d
  rwa [Nat.zero_add] at hr

/-- Where each stretch is matched in itself, the lexemes go as deep as their frame. -/
theorem levels_of_spliced (h : Spliced ls frame loose) (hl : ∀ s ∈ loose, BracesMatch s)
    (hf : Levels (.delimiter .lbrace) (.delimiter .rbrace) d e frame) :
    Levels (.delimiter .lbrace) (.delimiter .rbrace) d e ls := by
  have within {first last : Lexeme} {stretch ls frame : List Lexeme} {d : Nat}
      (hs : BracesMatch stretch)
      (hf : Levels (.delimiter .lbrace) (.delimiter .rbrace) d e (first :: last :: frame))
      (ih : ∀ {d}, Levels (.delimiter .lbrace) (.delimiter .rbrace) d e frame →
        Levels (.delimiter .lbrace) (.delimiter .rbrace) d e ls) :
      Levels (.delimiter .lbrace) (.delimiter .rbrace) d e (first :: (stretch ++ last :: ls)) := by
    obtain ⟨m, hfirst, hf⟩ := hf.uncons
    obtain ⟨n, hlast, hf⟩ := hf.uncons
    exact hfirst.cons ((hs.levels m).append (hlast.cons (ih hf)))
  induction h generalizing d with
  | nil => exact hf
  | keep _ ih =>
    obtain ⟨m, hfirst, hf⟩ := hf.uncons
    exact hfirst.cons (ih hl hf)
  | statement _ _ _ _ ih =>
    exact within (hl _ List.mem_cons_self) hf fun hf =>
      ih (fun s hs => hl s (List.mem_cons_of_mem _ hs)) hf
  | settings _ _ _ _ ih =>
    exact within (hl _ List.mem_cons_self) hf fun hf =>
      ih (fun s hs => hl s (List.mem_cons_of_mem _ hs)) hf

/-- The lexemes lead from depth `d` to depth `e` but for stretches that nobody looks at. -/
def Framed (d e : Nat) (ls : List Lexeme) : Prop :=
  ∃ frame loose, Spliced ls frame loose ∧
    Levels (.delimiter .lbrace) (.delimiter .rbrace) d e frame

theorem Framed.of_levels (h : Levels (.delimiter .lbrace) (.delimiter .rbrace) d e ls) :
    Framed d e ls :=
  ⟨ls, [], .refl ls, h⟩

theorem Framed.append (h : Framed d e ls) (h' : Framed e g ms) : Framed d g (ls ++ ms) := by
  obtain ⟨frame, loose, hs, hl⟩ := h
  obtain ⟨frame', loose', hs', hl'⟩ := h'
  exact ⟨_, _, hs.append hs', hl.append hl'⟩

end Frames

/-! ## What a parser takes -/

namespace Parser
open Grammar

variable {α β : Type} {p : Parser α} {d : Nat}

/-- From depth `d` on, what the parser takes leads to the depth that goes with what it yields. -/
def Takes (p : Parser α) (d : Nat) (e : α → Nat) : Prop :=
  ∀ ⦃ts a rest⦄, p.run ts = .ok (a, rest) → ∃ taken, ts = taken ++ rest ∧ Framed d (e a) taken

/-- What the parser takes leads back to the depth where it starts. -/
abbrev Level (p : Parser α) (d : Nat) : Prop :=
  Takes p d fun _ => d

theorem Takes.bind {e : α → Nat} {g : β → Nat} {f : α → Parser β} (hp : Takes p d e)
    (hf : ∀ a, Takes (f a) (e a) g) : Takes (p >>= f) d g := by
  intro ts b rest h
  obtain ⟨a, mid, ha, hb⟩ := run_bind_eq_ok.1 h
  obtain ⟨taken, rfl, ht⟩ := hp ha
  obtain ⟨taken', rfl, ht'⟩ := hf a hb
  exact ⟨taken ++ taken', (List.append_assoc ..).symm, ht.append ht'⟩

theorem Level.bind {f : α → Parser β} {g : β → Nat} (hp : Level p d)
    (hf : ∀ a, Takes (f a) d g) : Takes (p >>= f) d g :=
  Takes.bind hp hf

theorem Takes.pure {e : α → Nat} {a : α} (h : e a = d) : Takes (Pure.pure a : Parser α) d e := by
  rintro ts b rest ⟨⟩
  exact ⟨[], rfl, h ▸ .of_levels .nil⟩

theorem Level.look (f : List Lexeme → α) : Level (Parser.look f) d := by
  rintro ts b rest ⟨⟩
  exact ⟨[], rfl, .of_levels .nil⟩

theorem Takes.refuse (cause : Lexeme → Cause) (e : α → Nat) :
    Takes (Parser.refuse cause : Parser α) d e := by
  rintro ts b rest ⟨⟩

theorem Takes.ite {c : Prop} [Decidable c] {q : Parser α} {e : α → Nat} (hp : Takes p d e)
    (hq : Takes q d e) : Takes (if c then p else q) d e := by
  split <;> assumption

theorem Level.map {f : α → β} (h : Level p d) : Level (f <$> p) d := by
  rw [← bind_pure_comp]
  exact h.bind fun _ => .pure rfl

/-! ### Lexemes -/

/-- Whether a kind is that of no brace. -/
def isLevel (k : Kind) : Bool :=
  k ≠ .delimiter .lbrace && k ≠ .delimiter .rbrace

theorem levels_of_isLevel {l : Lexeme} (h : isLevel l.kind = true) :
    Levels (.delimiter .lbrace) (.delimiter .rbrace) d d [l] := by
  simp only [isLevel, Bool.and_eq_true, decide_eq_true_eq] at h
  exact .stays h.1 h.2

theorem framed_of_isLevel {l : Lexeme} (h : isLevel l.kind = true) : Framed d d [l] :=
  .of_levels (levels_of_isLevel h)

/-- Only a lexeme of a wanted kind is taken. -/
theorem satisfy_taken {wanted : Kind → Bool} {cause : Lexeme → Cause} {ts rest : List Lexeme}
    {text : String} (h : (satisfy wanted cause).run ts = .ok (text, rest)) :
    ∃ l, ts = l :: rest ∧ wanted l.kind = true := by
  cases ts with
  | nil => cases h
  | cons t ts =>
    simp only [satisfy] at h
    split at h
    · next hw =>
      cases h
      exact ⟨t, rfl, hw⟩
    · cases h

theorem satisfy_level {wanted : Kind → Bool} (cause : Lexeme → Cause)
    (hw : ∀ k, wanted k = true → isLevel k = true) : Level (satisfy wanted cause) d := by
  intro ts text rest h
  obtain ⟨l, rfl, hl⟩ := satisfy_taken h
  exact ⟨[l], rfl, framed_of_isLevel (hw _ hl)⟩

theorem expect_taken {k : Kind} {ts rest : List Lexeme} {text : String}
    (h : (expect k).run ts = .ok (text, rest)) : ∃ l, ts = l :: rest ∧ l.kind = k := by
  obtain ⟨l, hl, hk⟩ := satisfy_taken h
  exact ⟨l, hl, of_decide_eq_true hk⟩

theorem expect_level {k : Kind} (hk : isLevel k = true) : Level (expect k) d := by
  intro ts text rest h
  obtain ⟨l, rfl, hl⟩ := expect_taken h
  exact ⟨[l], rfl, framed_of_isLevel (hl ▸ hk)⟩

theorem keyword_level (k : Keyword) : Level (keyword k) d := expect_level rfl

theorem delimiter_level (δ : Delimiter) (h : isLevel (.delimiter δ) = true) :
    Level (delimiter δ) d :=
  expect_level h

theorem isLevel_of_isWord {k : Kind} (h : k.isWord = true) : isLevel k = true := by
  cases k <;> first | rfl | cases h

theorem word_level : Level word d := satisfy_level _ fun _ => isLevel_of_isWord

theorem lbrace_takes : Takes (delimiter .lbrace) d fun _ => d + 1 := by
  intro ts text rest h
  obtain ⟨l, rfl, hl⟩ := expect_taken h
  exact ⟨[l], rfl, .of_levels (.opens hl (by decide))⟩

theorem rbrace_takes : Takes (delimiter .rbrace) (d + 1) fun _ => d := by
  intro ts text rest h
  obtain ⟨l, rfl, hl⟩ := expect_taken h
  exact ⟨[l], rfl, .of_levels (.closes hl (by decide))⟩

theorem fieldNumber_level : Level fieldNumber d := by
  intro ts a rest h
  cases ts with
  | nil => cases h
  | cons t ts =>
    simp only [fieldNumber] at h
    split at h
    · next hk =>
      split at h
      · split at h <;> cases h
        exact ⟨[t], rfl, framed_of_isLevel (by rw [hk]; rfl)⟩
      · cases h
    · cases h

/-! ### Runs of lexemes -/

theorem framed_of_all {ls : List Lexeme} (h : ∀ l ∈ ls, isLevel l.kind = true) :
    Framed d d ls := by
  induction ls with
  | nil => exact .of_levels .nil
  | cons l ls ih =>
    have hl : Framed d d [l] := framed_of_isLevel (h l List.mem_cons_self)
    exact hl.append (ih fun m hm => h m (List.mem_cons_of_mem _ hm))

theorem textWhile_level {q : Lexeme → Bool} (hq : ∀ l, q l = true → isLevel l.kind = true) :
    Level (textWhile q) d := by
  rintro ts a rest ⟨⟩
  refine ⟨ts.takeWhile q, List.takeWhile_append_dropWhile.symm, framed_of_all ?_⟩
  intro l hl
  exact hq l (by simpa using List.all_eq_true.1 (List.all_takeWhile (p := q) (l := ts)) l hl)

theorem statementText_taken {ts rest : List Lexeme} {text : String}
    (h : statementText.run ts = .ok (text, rest)) :
    ∃ stretch stop, ts = stretch ++ stop :: rest ∧
      (∀ l ∈ stretch, l.kind ≠ .delimiter .semicolon) ∧ stop.kind = .delimiter .semicolon := by
  simp only [statementText] at h
  split at h
  · cases h
  · next stop _ hd =>
    cases h
    refine ⟨ts.takeWhile (!·.is (.delimiter .semicolon)), stop, ?_, ?_, ?_⟩
    · rw [← hd, List.takeWhile_append_dropWhile]
    · intro l hl
      simpa [Lexeme.is] using List.all_eq_true.1 (List.all_takeWhile (l := ts)) l hl
    · have hh := List.head?_dropWhile_not (!·.is (.delimiter .semicolon)) ts
      rw [hd] at hh
      simpa [Lexeme.is] using hh

/-- A statement of which only the text is kept. -/
theorem statement_takes {k : Keyword} (hk : k = .reserved ∨ k = .extensions)
    {f : String → Parser β} {g : β → Nat} (hf : ∀ text, Takes (f text) d g) :
    Takes (keyword k >>= fun _ => statementText >>= f) d g := by
  intro ts b rest h
  obtain ⟨_, mid, hm, hbehind⟩ := run_bind_eq_ok.1 h
  obtain ⟨text, behind, hs, hlast⟩ := run_bind_eq_ok.1 hbehind
  obtain ⟨mark, rfl, hmark⟩ := expect_taken hm
  obtain ⟨stretch, stop, rfl, hstretch, hstop⟩ := statementText_taken hs
  obtain ⟨taken, rfl, ht⟩ := hf text hlast
  have hkind : mark.kind = .keyword .reserved ∨ mark.kind = .keyword .extensions := by
    rw [hmark]
    exact hk.imp (congrArg _) (congrArg _)
  have hframed : Framed d d (mark :: (stretch ++ [stop])) := by
    refine ⟨_, _, .statement hkind hstretch hstop .nil, ?_⟩
    exact (levels_of_isLevel (by rw [hmark]; rfl)).cons (levels_of_isLevel (by rw [hstop]; rfl))
  exact ⟨_, by simp, hframed.append ht⟩

theorem balanced_taken {opening closing : Delimiter} (hne : opening ≠ closing)
    {ts rest : List Lexeme} {text : String}
    (h : (balanced opening closing).run ts = .ok (text, rest)) :
    ∃ first inner last, ts = first :: (inner ++ last :: rest) ∧ first.kind = .delimiter opening ∧
      Matched (.delimiter opening) (.delimiter closing) inner ∧
      last.kind = .delimiter closing := by
  cases ts with
  | nil => cases h
  | cons t ts =>
    simp only [balanced] at h
    split at h
    · next ht =>
      split at h
      · next taken _ hc =>
        cases h
        obtain ⟨hcloses, rfl⟩ := closeBrackets?_eq_some.1 hc
        obtain ⟨inner, last, rfl, hlast, hinner⟩ :=
          levels_of_closesBracket (fun e => hne (Kind.delimiter.inj e)) hcloses
        exact ⟨t, inner, last, by simp, ht, matched_iff.2 hinner, hlast⟩
      · cases h
    · cases h

/-- Skipped braces are matched by the search for their end. -/
theorem braces_level : Level (balanced .lbrace .rbrace) d := by
  intro ts text rest h
  obtain ⟨first, inner, last, rfl, hfirst, hinner, hlast⟩ := balanced_taken (by decide) h
  have hframed : Levels (.delimiter .lbrace) (.delimiter .rbrace) d d
      (first :: (inner ++ [last])) :=
    (Levels.opens hfirst (by decide)).cons
      ((hinner.levels (d + 1)).append (.closes hlast (by decide)))
  exact ⟨_, by simp, .of_levels hframed⟩

theorem brackets_level : Level (balanced .lbracket .rbracket) d := by
  intro ts text rest h
  obtain ⟨first, inner, last, rfl, hfirst, hinner, hlast⟩ := balanced_taken (by decide) h
  refine ⟨first :: (inner ++ [last]), by simp, _, _, .settings hfirst hinner hlast .nil, ?_⟩
  exact (levels_of_isLevel (by rw [hfirst]; rfl)).cons (levels_of_isLevel (by rw [hlast]; rfl))

/-! ### Loops -/

theorem items_takes {stop : List Lexeme → Bool} {item : Parser (Option α)}
    (hi : Level item d) {ts rest : List Lexeme} {as : List α}
    (h : ItemsRead stop item ts as rest) : ∃ taken, ts = taken ++ rest ∧ Framed d d taken := by
  induction h with
  | done => exact ⟨[], rfl, .of_levels .nil⟩
  | item _ hr _ ih =>
    obtain ⟨taken, rfl, ht⟩ := hi hr
    obtain ⟨taken', rfl, ht'⟩ := ih
    exact ⟨taken ++ taken', (List.append_assoc ..).symm, ht.append ht'⟩

theorem braced_level {item : Parser (Option α)} {hc : Consuming item}
    (hi : Level item (d + 1)) : Level (braced item hc) d := by
  have hitems : Level (items atBodyEnd item hc) (d + 1) :=
    fun _ _ _ h => items_takes hi (itemsFrom_eq_ok.1 h)
  exact lbrace_takes.bind fun _ => hitems.bind fun _ => rbrace_takes.bind fun _ => .pure rfl

end Parser

/-! ## The grammar -/

namespace Grammar
open Schema.Parser

variable {d : Nat}

/-! ### Constants and fields -/

theorem literal_level : Level literal d :=
  (expect_level rfl).bind fun _ => (textWhile_level fun l hl => by
    rw [of_decide_eq_true hl]
    rfl).bind fun _ => .pure rfl

theorem settingBase_level : Level settingBase d := by
  refine (Level.look _).bind fun kind => ?_
  split
  · exact (delimiter_level _ rfl).bind fun _ => word_level.bind fun _ =>
      (delimiter_level _ rfl).bind fun _ => .pure rfl
  · exact satisfy_level _ fun _ => isLevel_of_isWord

theorem isLevel_of_isSelector {l : Lexeme} (h : isSelector l = true) : isLevel l.kind = true := by
  rw [isSelector, Bool.and_eq_true] at h
  rw [of_decide_eq_true h.1]
  rfl

theorem settingName_level : Level settingName d :=
  settingBase_level.bind fun _ => (textWhile_level fun _ => isLevel_of_isSelector).bind fun _ =>
    .pure rfl

theorem constant_level : Level constant d := by
  refine (Level.look _).bind fun _ => .ite ?_ ?_
  · exact (expect_level rfl).bind fun _ => word_level.bind fun _ => .pure rfl
  · refine (Level.look _).bind fun kind => ?_
    split
    · exact literal_level
    · exact braces_level
    · refine satisfy_level _ fun k hk => ?_
      rw [Bool.or_eq_true] at hk
      rcases hk with hk | hk
      · rw [of_decide_eq_true hk]
        rfl
      · exact isLevel_of_isWord hk

theorem setting_level : Level setting d :=
  (keyword_level _).bind fun _ => settingName_level.bind fun _ =>
    (delimiter_level _ rfl).bind fun _ => constant_level.bind fun _ =>
    (delimiter_level _ rfl).bind fun _ => .pure rfl

theorem fieldSettings_level : Level fieldSettings d :=
  (Level.look _).bind fun _ => .ite (brackets_level.bind fun _ => .pure rfl) (.pure rfl)

theorem numbering_level : Level numbering d :=
  (delimiter_level _ rfl).bind fun _ => fieldNumber_level.bind fun _ =>
    fieldSettings_level.bind fun _ => .pure rfl

theorem labelIf_level (ahead : List Lexeme → Option Label) : Level (labelIf ahead) d := by
  refine (Level.look _).bind fun label => ?_
  split
  · exact word_level.bind fun _ => .pure rfl
  · exact .pure rfl

theorem field_level : Level field d :=
  (labelIf_level _).bind fun _ => word_level.bind fun _ => word_level.bind fun _ =>
    numbering_level.bind fun _ => (delimiter_level _ rfl).bind fun _ => .pure rfl

theorem mapField_level : Level mapField d :=
  (keyword_level _).bind fun _ => (delimiter_level _ rfl).bind fun _ => word_level.bind fun _ =>
    (delimiter_level _ rfl).bind fun _ => word_level.bind fun _ =>
    (delimiter_level _ rfl).bind fun _ => word_level.bind fun _ => numbering_level.bind fun _ =>
    (delimiter_level _ rfl).bind fun _ => .pure rfl

theorem group_level : Level group d :=
  (labelIf_level _).bind fun _ => (keyword_level _).bind fun _ => word_level.bind fun _ =>
    numbering_level.bind fun _ => braces_level.bind fun _ => .pure rfl

/-! ### Blocks -/

theorem blank_level {α : Type} : Level (blank : Parser (Option α)) d :=
  (delimiter_level _ rfl).bind fun _ => .pure rfl

theorem oneofItem_level : Level oneofItem d :=
  (Level.look _).bind fun _ => .ite blank_level <| .ite (setting_level.bind fun _ => .pure rfl) <|
    (Level.look _).bind fun _ => .ite (group_level.bind fun _ => .pure rfl) <|
    .ite field_level.map (.refuse _ _)

theorem enumItem_level : Level enumItem d :=
  (Level.look _).bind fun _ => .ite blank_level <| .ite (setting_level.bind fun _ => .pure rfl) <|
    (Level.look _).bind fun _ => .ite (statement_takes (.inl rfl) fun _ => .pure rfl) <|
    .ite (word_level.bind fun _ => (delimiter_level _ rfl).bind fun _ =>
      (expect_level rfl).bind fun _ => fieldSettings_level.bind fun _ =>
      (delimiter_level _ rfl).bind fun _ => .pure rfl) (.refuse _ _)

theorem rpcItem_level : Level rpcItem d :=
  (Level.look _).bind fun _ => .ite setting_level.map <| .ite blank_level (.refuse _ _)

theorem oneof_level : Level oneof d :=
  (keyword_level _).bind fun _ => word_level.bind fun _ =>
    (braced_level oneofItem_level).bind fun _ => .pure rfl

theorem enumeration_level : Level enumeration d :=
  (keyword_level _).bind fun _ => word_level.bind fun _ =>
    (braced_level enumItem_level).bind fun _ => .pure rfl

theorem extend_level : Level extend d :=
  (keyword_level _).bind fun _ => word_level.bind fun _ => braces_level.bind fun _ => .pure rfl

/-! ### Messages -/

/-- Where an entry of a message body leaves off: inside the message that it opens, if it opens one. -/
def Entry.depth (d : Nat) : Entry → Nat
  | .opens _ => d + 1
  | _ => d

theorem entry_takes : Takes entry d (Entry.depth d) :=
  (Level.look _).bind fun _ => .ite ((delimiter_level _ rfl).bind fun _ => .pure rfl) <|
    (Level.look _).bind fun _ => .ite ((keyword_level _).bind fun _ => word_level.bind fun _ =>
      lbrace_takes.bind fun _ => .pure rfl) <|
    (Level.look _).bind fun _ => .ite (enumeration_level.bind fun _ => .pure rfl) <|
    (Level.look _).bind fun _ => .ite (oneof_level.bind fun _ => .pure rfl) <|
    (Level.look _).bind fun _ => .ite (extend_level.bind fun _ => .pure rfl) <|
    .ite (setting_level.bind fun _ => .pure rfl) <|
    (Level.look _).bind fun _ => .ite (statement_takes (.inl rfl) fun _ => .pure rfl) <|
    (Level.look _).bind fun _ => .ite (statement_takes (.inr rfl) fun _ => .pure rfl) <|
    (Level.look _).bind fun _ => .ite (mapField_level.bind fun _ => .pure rfl) <|
    (Level.look _).bind fun _ => .ite (group_level.bind fun _ => .pure rfl) <|
    .ite (field_level.bind fun _ => .pure rfl) (.refuse _ _)

theorem elementsRead_takes {ts rest : List Lexeme} {es : List MessageElement}
    (h : ElementsRead ts es rest) (d : Nat) : ∃ taken, ts = taken ++ rest ∧ Framed d d taken := by
  induction h generalizing d with
  | done => exact ⟨[], rfl, .of_levels .nil⟩
  | blank he _ ih =>
    obtain ⟨front, rfl, hfront⟩ := entry_takes (d := d) he
    obtain ⟨behind, rfl, hbehind⟩ := ih d
    exact ⟨front ++ behind, (List.append_assoc ..).symm, hfront.append hbehind⟩
  | element he _ ih =>
    obtain ⟨front, rfl, hfront⟩ := entry_takes (d := d) he
    obtain ⟨behind, rfl, hbehind⟩ := ih d
    exact ⟨front ++ behind, (List.append_assoc ..).symm, hfront.append hbehind⟩
  | opens he _ hb _ ihInner ih =>
    obtain ⟨front, rfl, hfront⟩ := entry_takes (d := d) he
    obtain ⟨inner, rfl, hinner⟩ := ihInner (d + 1)
    obtain ⟨brace, rfl, hbrace⟩ := rbrace_takes hb
    obtain ⟨behind, rfl, hbehind⟩ := ih d
    exact ⟨front ++ (inner ++ (brace ++ behind)), by simp only [List.append_assoc],
      hfront.append (hinner.append (hbrace.append hbehind))⟩

theorem elements_level : Level elements d :=
  fun _ _ _ h => elementsRead_takes (elements_run_eq_ok.1 h) d

theorem message_level : Level message d :=
  (keyword_level _).bind fun _ => word_level.bind fun _ => lbrace_takes.bind fun _ =>
    elements_level.bind fun _ => rbrace_takes.bind fun _ => .pure rfl

/-! ### Services -/

theorem streamMark_level : Level streamMark d :=
  (Level.look _).bind fun _ => .ite (word_level.bind fun _ => .pure rfl) (.pure rfl)

theorem rpcType_level : Level rpcType d :=
  (delimiter_level _ rfl).bind fun _ => streamMark_level.bind fun _ => word_level.bind fun _ =>
    (delimiter_level _ rfl).bind fun _ => .pure rfl

theorem rpcSettings_level (rpc : String) : Level (rpcSettings rpc) d := by
  refine (Level.look _).bind fun kind => ?_
  split
  · exact (delimiter_level _ rfl).bind fun _ => .pure rfl
  · exact braced_level rpcItem_level
  · exact .refuse _ _

theorem rpc_level : Level rpc d :=
  (keyword_level _).bind fun _ => word_level.bind fun _ => rpcType_level.bind fun ⟨_, _⟩ =>
    (keyword_level _).bind fun _ => rpcType_level.bind fun ⟨_, _⟩ =>
    (rpcSettings_level _).bind fun _ => .pure rfl

theorem serviceItem_level : Level serviceItem d :=
  (Level.look _).bind fun _ => .ite blank_level <| .ite setting_level.map <|
    .ite rpc_level.map (.refuse _ _)

theorem service_level : Level service d :=
  (keyword_level _).bind fun _ => word_level.bind fun _ =>
    (braced_level serviceItem_level).bind fun _ => .pure rfl

/-! ### Files -/

theorem dialect_level : Level dialect d :=
  word_level.bind fun _ => (delimiter_level _ rfl).bind fun _ => literal_level.bind fun _ =>
    (delimiter_level _ rfl).bind fun _ => .pure rfl

theorem package_level : Level package d :=
  (keyword_level _).bind fun _ => word_level.bind fun _ =>
    (delimiter_level _ rfl).bind fun _ => .pure rfl

theorem importMark_level : Level importMark d :=
  (Level.look _).bind fun _ => .ite (.pure rfl) (word_level.bind fun _ => .pure rfl)

theorem importing_level : Level importing d :=
  (keyword_level _).bind fun _ => importMark_level.bind fun _ => literal_level.bind fun _ =>
    (delimiter_level _ rfl).bind fun _ => .pure rfl

theorem declaration_level : Level declaration d := by
  refine (Level.look _).bind fun kind => ?_
  split
  · exact dialect_level.map
  · exact dialect_level.map
  · exact package_level.map
  · exact importing_level.map
  · exact setting_level.map
  · exact message_level.map
  · exact enumeration_level.map
  · exact service_level.map
  · exact extend_level.map
  · exact blank_level
  · exact .refuse _ _

theorem file_framed {ts : List Lexeme} {f : File} (h : Grammar.file ts = .ok f) :
    Framed 0 0 ts := by
  unfold Grammar.file at h
  cases hr : declarations.run ts with
  | error e => rw [hr] at h; cases h
  | ok r =>
    obtain ⟨as, rest⟩ := r
    have hread := itemsFrom_eq_ok.1 hr
    have hrest : rest = [] := by
      clear hr h
      induction hread with
      | done hd => simpa using hd
      | item _ _ _ ih => exact ih
    obtain ⟨taken, rfl, ht⟩ := items_takes declaration_level hread
    rwa [hrest, List.append_nil]

end Grammar

/-! ## Texts -/

/-- What is read as a schema has a frame whose braces are matched, and where each stretch passed over
is matched in itself the braces of the schema are matched. -/
theorem ofText_framed {text : String} {f : File} (h : File.ofText text = .ok f) :
    ∃ t frame loose, Tokens.ofText text = .ok t ∧ Spliced t.lexemes frame loose ∧
      BracesMatch frame ∧ ((∀ s ∈ loose, BracesMatch s) → BracesMatch t.lexemes) := by
  obtain ⟨t, ht, hf⟩ := tokens_of_ofText h
  obtain ⟨frame, loose, hs, hl⟩ := Grammar.file_framed hf
  exact ⟨t, frame, loose, ht, hs, matched_iff.2 hl,
    fun hloose => matched_iff.2 (levels_of_spliced hs hloose hl)⟩

theorem ofText_framed_reserved :
    File.ofText "message M { reserved 1; }" = .ok [.message ⟨"M", [.statement (.reserved "1")]⟩] ∧
      ∃ t frame loose, Tokens.ofText "message M { reserved 1; }" = .ok t ∧
        Spliced t.lexemes frame loose ∧ BracesMatch frame ∧
        ((∀ s ∈ loose, BracesMatch s) → BracesMatch t.lexemes) :=
  ⟨by with_unfolding_all rfl,
    ofText_framed (f := [.message ⟨"M", [.statement (.reserved "1")]⟩])
      (by with_unfolding_all rfl)⟩

/-- Without its semicolon a statement of reserved numbers takes the brace behind it along. -/
theorem unfinished_reserved_unmatched :
    File.ofText "message M \x7b reserved \x7d; \x7d" =
        .ok [.message ⟨"M", [.statement (.reserved "\x7d")]⟩] ∧
      ∃ t, Tokens.ofText "message M \x7b reserved \x7d; \x7d" = .ok t ∧
        ¬ BracesMatch t.lexemes := by
  refine ⟨by with_unfolding_all rfl, ?_⟩
  have ht : ∃ t, Tokens.ofText "message M \x7b reserved \x7d; \x7d" = .ok t ∧
      t.lexemes = [⟨.keyword .message, "message"⟩, ⟨.ident, "M"⟩, ⟨.delimiter .lbrace, "\x7b"⟩,
        ⟨.keyword .reserved, "reserved"⟩, ⟨.delimiter .rbrace, "\x7d"⟩,
        ⟨.delimiter .semicolon, ";"⟩, ⟨.delimiter .rbrace, "\x7d"⟩] :=
    ⟨_, by with_unfolding_all rfl, by with_unfolding_all rfl⟩
  obtain ⟨t, ht, hl⟩ := ht
  refine ⟨t, ht, ?_⟩
  rintro ⟨_, hcount⟩
  rw [hl] at hcount
  exact absurd hcount (by decide)

end ServiceScaffold.Schema

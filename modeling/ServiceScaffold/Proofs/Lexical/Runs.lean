import ServiceScaffold.Proofs.Lexical.Grammar

/-!
# Longest runs

The scanner takes characters one by one as long as each may follow. Where it stops, the run is the
longest one (`longest_wordTail`, `longest_numberTail`), and of a longest run it takes all
(`Longest.wordTail`, `Longest.numberTail`).
-/
namespace ServiceScaffold.Schema.Lexical
open Text Lexer

/-! ## Words -/

theorem inWord_iff {c : Char} {next : Option Char} :
    (isWordPart c || c = '_' || (c = '.' && next.any startsName)) = true ↔ InWord c next := by
  simp only [InWord, Bool.or_eq_true, Bool.and_eq_true, decide_eq_true_eq, or_assoc]

theorem InWord.of_prefix {c : Char} {ds es : List Char} (h : InWord c ds.head?)
    (hp : ds <+: es) : InWord c es.head? := by
  refine h.imp_right (.imp_right fun ⟨hd, hn⟩ => ⟨hd, ?_⟩)
  cases ds with
  | nil => cases hn
  | cons d ds =>
    obtain ⟨fs, rfl⟩ := hp
    exact hn

theorem inWord_of_startsName {c : Char} (h : startsName c = true) (next : Option Char) :
    InWord c next := by
  simp only [startsName, Bool.or_eq_true, decide_eq_true_eq] at h
  exact h.imp isWordPart_of_isLetter .inl

theorem inWord_of_startsWord {c : Char} {next : Option Char} (h : startsWord c next = true) :
    InWord c next := by
  simp only [startsWord, Bool.or_eq_true, Bool.and_eq_true, decide_eq_true_eq] at h
  rcases h with h | h
  · exact inWord_of_startsName h next
  · exact .inr (.inr h)

theorem wordTail_cons_of_inWord {c : Char} {cs : List Char} (h : InWord c cs.head?) :
    wordTail (c :: cs) = (c :: (wordTail cs).1, (wordTail cs).2) := by
  rw [wordTail, if_pos (inWord_iff.2 h)]

theorem wordTail_cons_of_not {c : Char} {cs : List Char} (h : ¬ InWord c cs.head?) :
    wordTail (c :: cs) = ([], c :: cs) := by
  rw [wordTail, if_neg (mt inWord_iff.1 h)]

/-- A letter or an underscore that stands next stands next in the word as well. -/
theorem head?_wordTail {cs : List Char} (h : cs.head?.any startsName = true) :
    (wordTail cs).1.head? = cs.head? := by
  cases cs with
  | nil => rfl
  | cons d ds => rw [wordTail_cons_of_inWord (inWord_of_startsName h _)]; rfl

theorem InWord.wordTail {c : Char} {cs : List Char} (h : InWord c cs.head?) :
    InWord c (wordTail cs).1.head? :=
  h.imp_right <| .imp_right fun ⟨hd, hn⟩ => ⟨hd, by rwa [head?_wordTail hn]⟩

theorem allInWord_nil : AllInWord [] := fun c cs h =>
  absurd (List.suffix_nil.1 h) (List.cons_ne_nil c cs)

theorem allInWord_cons {c : Char} {cs : List Char} :
    AllInWord (c :: cs) ↔ InWord c cs.head? ∧ AllInWord cs := by
  constructor
  · exact fun h => ⟨h c cs (List.suffix_refl _),
      fun d ds hs => h d ds (hs.trans (List.suffix_cons c cs))⟩
  · rintro ⟨hc, ht⟩ d ds hs
    rcases List.suffix_cons_iff.1 hs with e | hs
    · cases e
      exact hc
    · exact ht d ds hs

theorem AllInWord.append {s more : List Char} (hs : AllInWord s) (hm : AllInWord more) :
    AllInWord (s ++ more) := by
  induction s with
  | nil => exact hm
  | cons c s ih =>
    obtain ⟨hc, hs⟩ := allInWord_cons.1 hs
    exact allInWord_cons.2 ⟨hc.of_prefix (List.prefix_append s more), ih hs⟩

theorem allInWord_wordTail (cs : List Char) : AllInWord (wordTail cs).1 := by
  induction cs with
  | nil => exact allInWord_nil
  | cons c cs ih =>
    by_cases h : InWord c cs.head?
    · rw [wordTail_cons_of_inWord h]
      exact allInWord_cons.2 ⟨h.wordTail, ih⟩
    · rw [wordTail_cons_of_not h]
      exact allInWord_nil

/-- The tail of a word ends where a character may not stand in a word. -/
theorem not_inWord_of_wordTail {cs ds : List Char} {d : Char}
    (h : (wordTail cs).2 = d :: ds) : ¬ InWord d ds.head? := by
  induction cs with
  | nil => cases h
  | cons c cs ih =>
    by_cases hc : InWord c cs.head?
    · rw [wordTail_cons_of_inWord hc] at h
      exact ih h
    · rw [wordTail_cons_of_not hc] at h
      cases h
      exact hc

theorem longest_wordTail {c : Char} {cs : List Char} (h : startsWord c cs.head? = true) :
    Longest WordRun (c :: (wordTail cs).1) (wordTail cs).2 := by
  have hs : startsWord c (wordTail cs).1.head? = true := by
    simp only [startsWord, Bool.or_eq_true, Bool.and_eq_true, decide_eq_true_eq] at h ⊢
    rcases h with h | ⟨hd, hn⟩
    · exact .inl h
    · exact .inr ⟨hd, by rwa [head?_wordTail hn]⟩
  refine ⟨⟨⟨_, _, rfl, hs⟩, allInWord_cons.2 ⟨(inWord_of_startsWord h).wordTail,
    allInWord_wordTail cs⟩⟩, fun more hm hr => ?_⟩
  cases more with
  | nil => rfl
  | cons d ds =>
    obtain ⟨es, he⟩ := hm
    have hd := hr.continues d ds (List.suffix_append _ _)
    exact absurd (hd.of_prefix (List.prefix_append ds es)) (not_inWord_of_wordTail he.symm)

theorem startsWord_of_prefix {c : Char} {ds es : List Char} (h : startsWord c ds.head? = true)
    (hp : ds <+: es) : startsWord c es.head? = true := by
  simp only [startsWord, Bool.or_eq_true, Bool.and_eq_true, decide_eq_true_eq] at h ⊢
  rcases h with h | ⟨hd, hn⟩
  · exact .inl h
  · cases ds with
    | nil => cases hn
    | cons d ds =>
      obtain ⟨fs, rfl⟩ := hp
      exact .inr ⟨hd, hn⟩

theorem WordRun.append {s more : List Char} (h : WordRun s) (hm : AllInWord more) :
    WordRun (s ++ more) := by
  obtain ⟨c, cs, rfl, hc⟩ := h.starts
  exact ⟨⟨c, cs ++ more, rfl, startsWord_of_prefix hc (List.prefix_append cs more)⟩,
    h.continues.append hm⟩

/-- A longest word ends where a character may not stand in a word. -/
theorem Longest.not_inWord {s ds : List Char} {d : Char} (h : Longest WordRun s (d :: ds)) :
    ¬ InWord d ds.head? := by
  have short {more : List Char} (hp : more <+: d :: ds) (hne : more ≠ []) : ¬ AllInWord more :=
    fun hm => hne (h.longest more hp (h.run.append hm))
  intro hd
  by_cases hdot : d = '.'
  · -- the dot would lengthen the word together with the letter behind it
    subst hdot
    rcases hd with hd | hd | ⟨_, hn⟩
    · exact absurd hd (by decide)
    · exact absurd hd (by decide)
    · cases ds with
      | nil => cases hn
      | cons e es =>
        refine short (show ['.', e] <+: _ from ⟨es, rfl⟩) (List.cons_ne_nil _ _) ?_
        exact allInWord_cons.2 ⟨.inr (.inr ⟨rfl, hn⟩),
          allInWord_cons.2 ⟨inWord_of_startsName hn _, allInWord_nil⟩⟩
  · refine short (show [d] <+: _ from ⟨ds, rfl⟩) (List.cons_ne_nil _ _) ?_
    exact allInWord_cons.2 ⟨hd.imp_right (.imp_right fun hd => absurd hd.1 hdot), allInWord_nil⟩

theorem wordTail_append_of_inWord {tail rest : List Char} (ht : AllInWord tail)
    (hr : ∀ d ds, rest = d :: ds → ¬ InWord d ds.head?) : wordTail (tail ++ rest) = (tail, rest) := by
  induction tail with
  | nil =>
    cases rest with
    | nil => rfl
    | cons d ds => exact wordTail_cons_of_not (hr d ds rfl)
  | cons c tail ih =>
    obtain ⟨hc, ht⟩ := allInWord_cons.1 ht
    rw [List.cons_append, wordTail_cons_of_inWord (hc.of_prefix (List.prefix_append tail rest)),
      ih ht]

/-- The tail of a longest word is all that is read of it. -/
theorem Longest.wordTail {c : Char} {cs rest : List Char}
    (h : Longest WordRun (c :: cs) rest) : wordTail (cs ++ rest) = (cs, rest) := by
  refine wordTail_append_of_inWord (allInWord_cons.1 h.run.continues).2 ?_
  rintro d ds rfl
  exact h.not_inWord

/-! ## Numbers -/

theorem inNumber_iff {hex : Bool} {last c : Char} :
    (isWordPart c || c = '_' || c = '.' || (isSign c && (last = 'e' || last = 'E') && !hex)) = true ↔
      InNumber hex last c := by
  simp only [InNumber, Bool.or_eq_true, Bool.and_eq_true, Bool.not_eq_true', decide_eq_true_eq,
    or_assoc, and_assoc]

theorem numberTail_cons_of_inNumber {hex : Bool} {last c : Char} {cs : List Char}
    (h : InNumber hex last c) :
    numberTail hex last (c :: cs) = (c :: (numberTail hex c cs).1, (numberTail hex c cs).2) := by
  rw [numberTail, if_pos (inNumber_iff.2 h)]

theorem numberTail_cons_of_not {hex : Bool} {last c : Char} {cs : List Char}
    (h : ¬ InNumber hex last c) : numberTail hex last (c :: cs) = ([], c :: cs) := by
  rw [numberTail, if_neg (mt inNumber_iff.1 h)]

theorem isChain_numberTail (hex : Bool) (last : Char) (cs : List Char) :
    (last :: (numberTail hex last cs).1).IsChain (InNumber hex) := by
  induction cs generalizing last with
  | nil => exact .singleton last
  | cons c cs ih =>
    by_cases h : InNumber hex last c
    · rw [numberTail_cons_of_inNumber h]
      exact .cons_cons h (ih c)
    · rw [numberTail_cons_of_not h]
      exact .singleton last

theorem not_inNumber_of_numberTail {hex : Bool} {last d : Char} {cs ds : List Char}
    (h : (numberTail hex last cs).2 = d :: ds) :
    ∀ x ∈ (last :: (numberTail hex last cs).1).getLast?, ¬ InNumber hex x d := by
  induction cs generalizing last with
  | nil => cases h
  | cons c cs ih =>
    by_cases hc : InNumber hex last c
    · rw [numberTail_cons_of_inNumber hc] at h ⊢
      rw [List.getLast?_cons_cons]
      exact ih h
    · rw [numberTail_cons_of_not hc] at h ⊢
      cases h
      rintro x ⟨⟩
      exact hc

theorem numberTail_append_of_isChain {hex : Bool} {last : Char} {tail rest : List Char}
    (ht : (last :: tail).IsChain (InNumber hex))
    (hr : ∀ x ∈ (last :: tail).getLast?, ∀ d ∈ rest.head?, ¬ InNumber hex x d) :
    numberTail hex last (tail ++ rest) = (tail, rest) := by
  induction tail generalizing last with
  | nil =>
    cases rest with
    | nil => rfl
    | cons d ds => exact numberTail_cons_of_not (hr last rfl d rfl)
  | cons c tail ih =>
    obtain ⟨hc, ht⟩ := List.isChain_cons_cons.1 ht
    rw [List.getLast?_cons_cons] at hr
    rw [List.cons_append, numberTail_cons_of_inNumber hc, ih ht hr]

/-! ### Hexadecimal numbers -/

theorem marksHex_cons_cons (c d : Char) (cs : List Char) :
    marksHex (c :: d :: cs) = (c = '0' && (d = 'x' || d = 'X')) := by
  unfold marksHex
  split
  · next h =>
    cases h
    rfl
  · next h =>
    have hc : c ≠ '0' := fun e => h d cs (by rw [e])
    rw [decide_eq_false hc, Bool.false_and]

theorem marksHex_append {s : List Char} (h : marksHex s = true) (more : List Char) :
    marksHex (s ++ more) = true := by
  match s with
  | [] => cases h
  | [c] => simp [marksHex] at h
  | c :: d :: cs =>
    rw [marksHex_cons_cons] at h
    rw [List.cons_append, List.cons_append, marksHex_cons_cons, h]

theorem isHex_append {s : List Char} (h : isHex s = true) (more : List Char) :
    isHex (s ++ more) = true := by
  cases s with
  | nil => cases h
  | cons c cs =>
    rw [isHex] at h
    rw [List.cons_append, isHex]
    split
    · next hs => rw [if_pos hs] at h; exact marksHex_append h more
    · next hs => rw [if_neg hs] at h; exact marksHex_append h more

/-- The mark of a hexadecimal number stands among its first three characters. -/
theorem isHex_append_of_length {c d e : Char} (cs more : List Char) :
    isHex (c :: d :: e :: cs ++ more) = isHex (c :: d :: e :: cs) := by
  simp only [List.cons_append, isHex, marksHex_cons_cons]

theorem InNumber.of_le {h h' : Bool} {last c : Char} (hc : InNumber h last c)
    (hle : h' = true → h = true) : InNumber h' last c := by
  refine hc.imp_right (.imp_right (.imp_right fun ⟨hs, he, hh⟩ => ⟨hs, he, ?_⟩))
  exact Bool.eq_false_iff.2 fun e => by rw [hle e] at hh; cases hh

/-- No number starts with the mark of an exponent. -/
theorem InNumber.of_startsNumber {h h' : Bool} {c d : Char} {next : Option Char}
    (hc : startsNumber c next = true) (hd : InNumber h c d) : InNumber h' c d := by
  refine hd.imp_right (.imp_right (.imp_right fun ⟨_, he, _⟩ => ?_))
  have not : ∀ next, startsNumber 'e' next = false ∧ startsNumber 'E' next = false := fun next =>
    ⟨startsNumber_of_startsWord rfl, startsNumber_of_startsWord rfl⟩
  rcases he with rfl | rfl
  · rw [(not next).1] at hc
    cases hc
  · rw [(not next).2] at hc
    cases hc

/-- What follows a run does not change what may stand in it. -/
theorem NumberRun.isChain_append {s : List Char} (h : NumberRun s) (more : List Char) :
    s.IsChain (InNumber (isHex (s ++ more))) := by
  obtain ⟨c, cs, rfl, hc⟩ := h.starts
  have hch := h.continues
  match cs with
  | [] => exact .singleton c
  | [d] => exact .cons_cons (.of_startsNumber hc (List.isChain_cons_cons.1 hch).1) (.singleton d)
  | d :: e :: cs =>
    rw [isHex_append_of_length]
    exact hch

/-! ### Longest numbers -/

/-- The second character that lets a sign or a dot start a number belongs to the number. -/
theorem startsNumber_numberTail {hex : Bool} {c : Char} {cs : List Char}
    (h : startsNumber c cs.head? = true) :
    startsNumber c (numberTail hex c cs).1.head? = true := by
  cases cs with
  | nil => exact h
  | cons d ds =>
    by_cases hd : isDigit d = true ∨ d = '.'
    · have hin : InNumber hex c d := by
        rcases hd with hd | hd
        · exact .inl (isWordPart_of_isDigit hd)
        · exact .inr (.inr (.inl hd))
      rwa [numberTail_cons_of_inNumber hin]
    · rw [not_or, Bool.not_eq_true] at hd
      simp only [startsNumber, List.head?_cons, Option.any_some, hd.1, decide_eq_false hd.2,
        Bool.or_self, Bool.and_false, Bool.or_false] at h
      simp [startsNumber, h]

theorem startsNumber_of_prefix {c : Char} {ds es : List Char}
    (h : startsNumber c ds.head? = true) (hp : ds <+: es) : startsNumber c es.head? = true := by
  cases ds with
  | nil =>
    simp only [startsNumber, List.head?_nil, Option.any_none, Bool.and_false, Bool.or_false] at h
    simp [startsNumber, h]
  | cons d ds =>
    obtain ⟨fs, rfl⟩ := hp
    exact h

theorem longest_numberTail {c : Char} {cs : List Char} (h : startsNumber c cs.head? = true) :
    Longest NumberRun (c :: (numberTail (isHex (c :: cs)) c cs).1)
      (numberTail (isHex (c :: cs)) c cs).2 := by
  have happ := numberTail_append (isHex (c :: cs)) c cs
  refine ⟨⟨⟨_, _, rfl, startsNumber_numberTail h⟩, ?_⟩, fun more hm hr => ?_⟩
  · refine (isChain_numberTail (isHex (c :: cs)) c cs).imp fun _ _ hi => hi.of_le fun e => ?_
    have := isHex_append e (numberTail (isHex (c :: cs)) c cs).2
    rwa [List.cons_append, happ] at this
  · cases more with
    | nil => rfl
    | cons d ds =>
      obtain ⟨es, he⟩ := hm
      -- with all that follows, the longer run is the whole text
      have hch := hr.isChain_append es
      rw [List.append_assoc, he, List.cons_append, happ, List.isChain_append] at hch
      have hx := List.getLast?_eq_some_getLast (List.cons_ne_nil c (numberTail (isHex (c :: cs)) c cs).1)
      exact absurd (hch.2.2 _ hx d rfl) (not_inNumber_of_numberTail he.symm _ hx)

/-- A longest number ends where a character may not stand in a number. -/
theorem Longest.not_inNumber {s ds : List Char} {d : Char} (h : Longest NumberRun s (d :: ds)) :
    ∀ x ∈ s.getLast?, ¬ InNumber (isHex (s ++ d :: ds)) x d := by
  intro x hx hd
  obtain ⟨c, cs, hc, hs⟩ := h.run.starts
  have hle : isHex (s ++ [d]) = true → isHex (s ++ d :: ds) = true := by
    intro e
    simpa using isHex_append e ds
  have hrun : NumberRun (s ++ [d]) := by
    refine ⟨⟨c, cs ++ [d], by rw [hc]; rfl, startsNumber_of_prefix hs (List.prefix_append cs [d])⟩, ?_⟩
    rw [List.isChain_append]
    refine ⟨h.run.isChain_append [d], .singleton d, ?_⟩
    intro y hy z hz
    cases hz
    cases hx.symm.trans hy
    exact hd.of_le hle
  exact absurd (h.longest [d] ⟨ds, rfl⟩ hrun) (List.cons_ne_nil _ _)

/-- The tail of a longest number is all that is read of it. -/
theorem Longest.numberTail {c : Char} {cs rest : List Char}
    (h : Longest NumberRun (c :: cs) rest) :
    numberTail (isHex (c :: (cs ++ rest))) c (cs ++ rest) = (cs, rest) := by
  refine numberTail_append_of_isChain (h.run.isChain_append rest) ?_
  intro x hx d hd
  obtain ⟨ds, rfl⟩ := List.head?_eq_some_iff.1 hd
  exact h.not_inNumber x hx

end ServiceScaffold.Schema.Lexical

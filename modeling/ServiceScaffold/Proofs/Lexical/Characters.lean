import ServiceScaffold.Schema.Lexer

/-!
# Classes of characters

Blank characters, the characters of words and numbers, and the signs of the grammar keep apart:
the first character of a piece tells its kind. The tables of ranges are compared as a whole
(`Ranges.apart`).
-/
namespace ServiceScaffold

/-! ## Ranges -/

namespace Text

/-- No range of one list meets a range of the other. -/
def Ranges.apart (rs ss : Ranges) : Bool :=
  rs.all fun r => ss.all fun s => r.2.blt s.1 || s.2.blt r.1

theorem Ranges.has_eq_false_of_apart {rs ss : Ranges} (h : rs.apart ss = true) {c : Char}
    (hc : rs.has c = true) : ss.has c = false := by
  obtain ⟨r, hr, hrc⟩ := has_iff.1 hc
  refine Bool.eq_false_iff.2 ?_
  intro hs
  obtain ⟨s, hs, hsc⟩ := has_iff.1 hs
  have hd := List.all_eq_true.1 (List.all_eq_true.1 h r hr) s hs
  simp only [Bool.or_eq_true, Nat.blt_eq] at hd
  omega

theorem isDecimal_eq_has (c : Char) : isDecimal c = decimalRanges.has c := by
  rw [isDecimal, digitValue?, Option.isSome_map, Ranges.has]
  exact List.isSome_find? ..

/-- A letter of ASCII lies in these ranges, any other in `letterRanges`. -/
theorem isLetter_eq_false_of_apart {rs : Ranges} (ha : rs.apart [(65, 90), (97, 122)] = true)
    (hl : rs.apart letterRanges = true) {c : Char} (hc : rs.has c = true) :
    isLetter c = false := by
  unfold isLetter
  split
  · refine Bool.eq_false_iff.2 ?_
    intro h
    have := Ranges.has_eq_false_of_apart ha hc
    have hb := isAlpha_bounds h
    simp only [Ranges.has, List.any_cons, List.any_nil, Bool.or_false, Bool.or_eq_false_iff,
      Bool.and_eq_false_iff, decide_eq_false_iff_not] at this
    omega
  · exact Ranges.has_eq_false_of_apart hl hc

theorem isLetter_of_isBlank {c : Char} (h : isBlank c = true) : isLetter c = false :=
  isLetter_eq_false_of_apart (by decide +kernel) (by decide +kernel) h

theorem isDigit_of_isBlank {c : Char} (h : isBlank c = true) : isDigit c = false := by
  rw [isDigit, isDecimal_eq_has, Ranges.has_eq_false_of_apart (by decide +kernel) h,
    Ranges.has_eq_false_of_apart (by decide +kernel) h]
  rfl

theorem isWordPart_of_isBlank {c : Char} (h : isBlank c = true) : isWordPart c = false := by
  rw [isWordPart, isLetter_of_isBlank h, isDigit_of_isBlank h,
    Ranges.has_eq_false_of_apart (by decide +kernel) h]
  rfl

theorem isLetter_of_isDigit {c : Char} (h : isDigit c = true) : isLetter c = false := by
  rw [isDigit, isDecimal_eq_has, Bool.or_eq_true] at h
  rcases h with h | h
  · exact isLetter_eq_false_of_apart (by decide +kernel) (by decide +kernel) h
  · exact isLetter_eq_false_of_apart (by decide +kernel) (by decide +kernel) h

end Text

/-! ## Signs of the grammar -/

namespace Schema
open Text Lexer

theorem Delimiter.ofChar?_eq_none {c : Char} : ofChar? c = none ↔ ∀ d : Delimiter, d.char ≠ c := by
  constructor
  · rintro h d rfl
    rw [ofChar?_char] at h
    cases h
  · intro h
    refine Option.eq_none_iff_forall_not_mem.2 fun d hd => h d (char_of_ofChar? hd)

/-- A character of no word and no number, at which both of them end. -/
def isBreak (c : Char) : Bool :=
  isBlank c || (Delimiter.ofChar? c).isSome

theorem isBreak_delimiter (d : Delimiter) : isBreak d.char = true := by
  cases d <;> decide

namespace Lexer

theorem isBlank_delimiter (d : Delimiter) : isBlank d.char = false := by
  cases d <;> decide

theorem isBlank_of_isQuote {c : Char} (h : isQuote c = true) : isBlank c = false := by
  simp only [isQuote, Bool.or_eq_true, decide_eq_true_eq] at h
  rcases h with rfl | rfl <;> decide

theorem ofChar?_of_isQuote {c : Char} (h : isQuote c = true) : Delimiter.ofChar? c = none := by
  simp only [isQuote, Bool.or_eq_true, decide_eq_true_eq] at h
  rcases h with rfl | rfl <;> decide

/-- A break is none of the characters that a word or a number may contain. -/
theorem of_isBreak {c : Char} (h : isBreak c = true) :
    isWordPart c = false ∧ c ≠ '_' ∧ c ≠ '.' ∧ isSign c = false := by
  rw [isBreak, Bool.or_eq_true, Option.isSome_iff_exists] at h
  rcases h with h | ⟨d, hd⟩
  · have hw := isWordPart_of_isBlank h
    refine ⟨hw, ?_, ?_, ?_⟩
    · rintro rfl
      exact absurd h (by decide)
    · rintro rfl
      exact absurd h (by decide)
    · rw [isSign, Bool.or_eq_false_iff]
      refine ⟨decide_eq_false ?_, decide_eq_false ?_⟩ <;> rintro rfl <;> exact absurd h (by decide)
  · rw [← Delimiter.char_of_ofChar? hd]
    cases d <;> decide +kernel

/-- What starts a number is a word part, a sign or a dot. -/
theorem startsNumber_eq_false {c : Char} (hw : isWordPart c = false) (hs : isSign c = false)
    (hd : c ≠ '.') (next : Option Char) : startsNumber c next = false := by
  have hdigit : isDigit c = false := Bool.eq_false_iff.2 fun h => by
    rw [isWordPart_of_isDigit h] at hw
    cases hw
  simp [startsNumber, hdigit, hs, hd]

theorem startsWord_eq_false {c : Char} (hw : isWordPart c = false) (hu : c ≠ '_')
    (hd : c ≠ '.') (next : Option Char) : startsWord c next = false := by
  have hletter : isLetter c = false := Bool.eq_false_iff.2 fun h => by
    rw [isWordPart_of_isLetter h] at hw
    cases hw
  simp [startsWord, startsName, hletter, hu, hd]

/-- A quote and a slash start neither a number nor a word. -/
theorem starts_of_isQuote {c : Char} (h : isQuote c = true) (next : Option Char) :
    startsNumber c next = false ∧ startsWord c next = false := by
  simp only [isQuote, Bool.or_eq_true, decide_eq_true_eq] at h
  rcases h with rfl | rfl <;>
    exact ⟨startsNumber_eq_false (by decide) (by decide) (by decide) next,
      startsWord_eq_false (by decide) (by decide) (by decide) next⟩

theorem starts_slash (next : Option Char) :
    startsNumber '/' next = false ∧ startsWord '/' next = false :=
  ⟨startsNumber_eq_false (by decide) (by decide) (by decide) next,
    startsWord_eq_false (by decide) (by decide) (by decide) next⟩

theorem isDigit_of_startsName {c : Char} (h : startsName c = true) : isDigit c = false := by
  simp only [startsName, Bool.or_eq_true, decide_eq_true_eq] at h
  rcases h with h | rfl
  · refine Bool.eq_false_iff.2 ?_
    intro hd
    rw [isLetter_of_isDigit hd] at h
    cases h
  · decide

/-- What starts a word starts no number. -/
theorem startsNumber_of_startsWord {c : Char} {next : Option Char}
    (h : startsWord c next = true) : startsNumber c next = false := by
  rw [startsWord, Bool.or_eq_true] at h
  rcases h with h | h
  · have hs : isSign c = false := by
      rw [isSign, Bool.or_eq_false_iff]
      refine ⟨decide_eq_false ?_, decide_eq_false ?_⟩ <;> rintro rfl <;> exact absurd h (by decide)
    have hd : c ≠ '.' := by
      rintro rfl
      exact absurd h (by decide)
    simp [startsNumber, isDigit_of_startsName h, hs, hd]
  · simp only [Bool.and_eq_true, decide_eq_true_eq] at h
    obtain ⟨rfl, hn⟩ := h
    cases next with
    | none => cases hn
    | some d =>
      have hd : isDigit d = false := isDigit_of_startsName hn
      simp [startsNumber, hd, show isDigit '.' = false by decide, show isSign '.' = false by decide]

end Lexer

end Schema

end ServiceScaffold

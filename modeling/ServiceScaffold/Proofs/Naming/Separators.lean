import ServiceScaffold.Naming

/-!
# The separators of names

A dot, a slash and an underscore have no case: the tables map them to themselves and nothing else to
them. So a mapping neither brings a separator into a name nor takes one out of it, whatever letters
stand around it. What is left of a dotted name behind its last dot does not depend on a dot in front.
-/
namespace ServiceScaffold

namespace Text

/-! ## Characters without case -/

/-- Whether the run maps the character, or another one to it. -/
def CaseRun.meets (r : CaseRun) (x : Char) : Bool :=
  r.covers x.toNat || r.covers (x.toNat - r.shift).toNat

/-- What the case mappings treat apart from their tables, and the character that stands for no code
point. -/
def mappedApart : List Char :=
  ['\x00', 'İ', 'i', '\u0307', 'Σ', 'ς', 'σ']

/-- Whether neither case mapping has anything to do with the character. -/
def isCaseless (x : Char) : Bool :=
  (lowerRuns ++ titleRuns).all (fun r => !r.meets x)
    && titleExpansions.all (fun e => e.1 != x.toNat && !(e.2.map Char.ofNat).contains x)
    && !mappedApart.contains x

theorem toNat_of_ofNat_eq {n : Nat} {x : Char} (h : Char.ofNat n = x) (hx : x ≠ '\x00') :
    n = x.toNat := by
  unfold Char.ofNat at h
  by_cases hn : n.isValidChar
  · rw [dif_pos hn] at h
    subst h
    rfl
  · rw [dif_neg hn] at h
    exact absurd h.symm hx

theorem mapByRuns_eq_iff {rs : List CaseRun} {x : Char} (hr : ∀ r ∈ rs, r.meets x = false)
    (hx : x ≠ '\x00') (c : Char) : mapByRuns rs c = x ↔ c = x := by
  unfold mapByRuns
  cases hf : rs.find? (·.covers c.toNat) with
  | none => exact Iff.rfl
  | some r =>
    have hc : r.covers c.toNat = true := by simpa using List.find?_some hf
    have hm := hr r (List.mem_of_find?_eq_some hf)
    rw [CaseRun.meets, Bool.or_eq_false_iff] at hm
    obtain ⟨hself, hback⟩ := hm
    constructor
    · intro h
      have hn := toNat_of_ofNat_eq h hx
      have hpos : 0 < x.toNat := Nat.pos_of_ne_zero fun h0 => hx (Char.toNat_inj.1 h0)
      have : (x.toNat - r.shift).toNat = c.toNat := by omega
      rw [this, hc] at hback
      cases hback
    · rintro rfl
      rw [hc] at hself
      cases hself

section Caseless

variable {x : Char} (hx : isCaseless x = true)
include hx

theorem meets_of_isCaseless {r : CaseRun} (hr : r ∈ lowerRuns ++ titleRuns) : r.meets x = false := by
  simp only [isCaseless, Bool.and_eq_true, List.all_eq_true, Bool.not_eq_true'] at hx
  exact hx.1.1 r hr

theorem ne_of_isCaseless : x ≠ '\x00' ∧ x ≠ 'İ' ∧ x ≠ 'i' ∧ x ≠ '\u0307' ∧ x ≠ 'Σ' ∧ x ≠ 'ς' ∧
    x ≠ 'σ' := by
  simp only [isCaseless, Bool.and_eq_true, Bool.not_eq_true', List.contains_eq_mem,
    decide_eq_false_iff_not, mappedApart, List.mem_cons, List.not_mem_nil, or_false, not_or] at hx
  exact hx.2

theorem mem_titlecase_iff (c : Char) : x ∈ titlecase c ↔ c = x := by
  unfold titlecase
  cases hf : titleExpansions.find? (·.1 == c.toNat) with
  | none =>
    have hr : ∀ r ∈ titleRuns, r.meets x = false := fun r hr =>
      meets_of_isCaseless hx (List.mem_append_right _ hr)
    rw [List.mem_singleton, eq_comm]
    exact mapByRuns_eq_iff hr (ne_of_isCaseless hx).1 c
  | some e =>
    have he : e.1 = c.toNat := by simpa using List.find?_some hf
    simp only [isCaseless, Bool.and_eq_true, List.all_eq_true, Bool.not_eq_true', bne_iff_ne,
      List.contains_eq_mem, decide_eq_false_iff_not] at hx
    obtain ⟨hsource, htarget⟩ := hx.1.2 e (List.mem_of_find?_eq_some hf)
    constructor
    · exact fun h => absurd h htarget
    · rintro rfl
      exact absurd he hsource

theorem mem_lowerChar_iff (c : Char) : x ∈ lowerChar c ↔ c = x := by
  obtain ⟨hnul, hdotted, hi, hdot, _⟩ := ne_of_isCaseless hx
  unfold lowerChar
  split
  · next hc =>
    subst hc
    simp [hi, hdot, Ne.symm hdotted]
  · have hr : ∀ r ∈ lowerRuns, r.meets x = false := fun r hr =>
      meets_of_isCaseless hx (List.mem_append_left _ hr)
    rw [List.mem_singleton, eq_comm]
    exact mapByRuns_eq_iff hr hnul c

theorem mem_lowercaseAfter_iff (before s : List Char) : x ∈ lowercaseAfter before s ↔ x ∈ s := by
  obtain ⟨_, _, _, _, hcapital, hfinal, hsmall⟩ := ne_of_isCaseless hx
  induction s generalizing before with
  | nil => exact Iff.rfl
  | cons c cs ih =>
    rw [lowercaseAfter, List.mem_append, ih, List.mem_cons]
    refine or_congr_left ?_
    by_cases hc : c = 'Σ'
    · -- a sigma becomes one of two sigmas
      rw [if_pos hc]
      split <;> simp [hc, hcapital, hfinal, hsmall]
    · rw [if_neg hc, mem_lowerChar_iff hx, eq_comm]

theorem mem_lowercase_iff (s : List Char) : x ∈ lowercase s ↔ x ∈ s :=
  mem_lowercaseAfter_iff hx [] s

end Caseless

theorem isCaseless_dot : isCaseless '.' = true := by decide +kernel

theorem isCaseless_slash : isCaseless '/' = true := by decide +kernel

theorem isCaseless_underscore : isCaseless '_' = true := by decide +kernel

end Text

/-! ## Names -/

namespace Naming
open Text

theorem underscore_not_mem_camelFrom (atStart : Bool) (cs : List Char) :
    '_' ∉ camelFrom atStart cs := by
  induction cs generalizing atStart with
  | nil => exact List.not_mem_nil
  | cons c cs ih =>
    rw [camelFrom]
    by_cases hc : c = '_'
    · rw [if_pos hc]
      exact ih true
    · rw [if_neg hc, List.mem_append, not_or]
      refine ⟨?_, ih false⟩
      cases atStart with
      | true => exact fun h => hc ((mem_titlecase_iff isCaseless_underscore c).1 h)
      | false => exact fun h => hc (List.mem_singleton.1 h).symm

theorem mem_camelFrom_iff {x : Char} (hx : isCaseless x = true) (hu : x ≠ '_') (atStart : Bool)
    (cs : List Char) : x ∈ camelFrom atStart cs ↔ x ∈ cs := by
  induction cs generalizing atStart with
  | nil => exact Iff.rfl
  | cons c cs ih =>
    rw [camelFrom, List.mem_cons]
    by_cases hc : c = '_'
    · rw [if_pos hc, ih, hc]
      simp [hu]
    · rw [if_neg hc, List.mem_append, ih]
      refine or_congr_left ?_
      cases atStart with
      | true => exact (mem_titlecase_iff hx c).trans eq_comm
      | false => exact List.mem_singleton

theorem mem_splitWords {c : Char} {cs : List Char} (h : c ∈ splitWords cs) : c = '_' ∨ c ∈ cs := by
  fun_induction splitWords cs with
  | case1 a b cs _ ih => grind
  | case2 a b cs _ ih => grind
  | case3 cs => exact .inr h

theorem underscore_not_mem_declared (name : String) : '_' ∉ (declared name).toList := by
  rw [declared, String.toList_ofList]
  exact underscore_not_mem_camelFrom true _

theorem dot_not_mem_declared (name : String) : '.' ∉ (declared name).toList := by
  rw [declared, String.toList_ofList, mem_camelFrom_iff isCaseless_dot (by decide)]
  exact not_mem_beforeFirst '.' _

/-- Slashes in front of the first dot stay. -/
theorem slash_mem_declared_iff (name : String) :
    '/' ∈ (declared name).toList ↔ '/' ∈ beforeFirst '.' name.toList := by
  rw [declared, String.toList_ofList, mem_camelFrom_iff isCaseless_slash (by decide)]

theorem slash_mem_lower_iff (name : String) : '/' ∈ (lower name).toList ↔ '/' ∈ name.toList := by
  rw [lower, String.toList_ofList, mem_lowercase_iff isCaseless_slash]

/-- Nothing is left of a name that has only underscores in front of its first dot. -/
theorem declared_eq_empty_iff (name : String) :
    declared name = "" ↔ ∀ c ∈ beforeFirst '.' name.toList, c = '_' := by
  rw [declared, ← camelFrom_eq_nil_iff true, ← String.toList_inj, String.toList_ofList]
  rfl

/-! ## Qualified names -/

theorem bare_relative (name : String) : bare (relative name) = bare name := by
  unfold relative
  split
  · next cs h =>
    have : afterLast '.' ('.' :: cs) = afterLast '.' cs := by
      unfold afterLast
      rw [List.reverse_cons, List.takeWhile_append]
      split
      · next hl =>
        have hw := (List.takeWhile_prefix fun x => decide (x ≠ '.')).eq_of_length hl
        rw [hw]
        simp
      · rfl
    simp only [bare, h, this, String.toList_ofList]
  · rfl

end Naming

end ServiceScaffold

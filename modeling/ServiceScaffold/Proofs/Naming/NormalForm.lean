import ServiceScaffold.Proofs.Naming.CamelCase

/-!
# Names in upper camel case

What title case puts in front is in title case already: no entry of the table gives a code point
that another one maps on, which the two sets of code points as bits of a number show at once
(`titlecase_head`). So upper camel case leaves alone exactly the names without an underscore that
begin with such a character (`upperCamel_eq_self_iff`), its own results among them.
-/
namespace ServiceScaffold

namespace Text

/-! ## Sets of numbers as bits -/

/-- The number that has a bit for each number of the list. -/
def bitsOf (ns : List Nat) : Nat :=
  ns.foldr (fun n bits => 1 <<< n ||| bits) 0

theorem testBit_bitsOf {ns : List Nat} {n : Nat} : (bitsOf ns).testBit n = true ↔ n ∈ ns := by
  induction ns with
  | nil => simp [bitsOf]
  | cons m ns ih =>
    rw [bitsOf, List.foldr_cons, Nat.testBit_or, Bool.or_eq_true, List.mem_cons, ← ih,
      Nat.one_shiftLeft, Nat.testBit_two_pow, decide_eq_true_eq, eq_comm]
    rfl

theorem not_mem_of_bitsOf {ns ms : List Nat} (h : bitsOf ns &&& bitsOf ms = 0) {n : Nat}
    (hn : n ∈ ns) : n ∉ ms := by
  intro hm
  have both := congrArg (Nat.testBit · n) h
  simp [Nat.testBit_and, testBit_bitsOf.2 hn, testBit_bitsOf.2 hm] at both

/-! ## Title case twice -/

/-- The code points that the run covers. -/
def CaseRun.sources (r : CaseRun) : List Nat :=
  (List.range ((r.last - r.first) / r.step + 1)).map fun i => r.first + r.step * i

theorem CaseRun.mem_sources {r : CaseRun} {n : Nat} (h : r.covers n = true) : n ∈ r.sources := by
  simp only [covers, Bool.and_eq_true, decide_eq_true_eq, beq_iff_eq] at h
  obtain ⟨⟨hfirst, hlast⟩, hstep⟩ := h
  refine List.mem_map.2 ⟨(n - r.first) / r.step, List.mem_range.2 ?_, ?_⟩
  · exact Nat.lt_succ_of_le (Nat.div_le_div_right (Nat.sub_le_sub_right hlast _))
  · have := Nat.div_add_mod (n - r.first) r.step
    omega

/-- The code points that title case maps. -/
def titleMapped : List Nat :=
  titleRuns.flatMap CaseRun.sources ++ titleExpansions.map (·.1)

/-- The code points that stand first in what they are mapped to, and the one for none. -/
def titleFirst : List Nat :=
  0 :: titleRuns.flatMap (fun r => r.sources.map fun n : Nat => (n + r.shift).toNat)
    ++ titleExpansions.filterMap (·.2.head?)

theorem titlecase_of_find?_eq_none {c : Char}
    (expansions : titleExpansions.find? (·.1 == c.toNat) = none)
    (runs : titleRuns.find? (·.covers c.toNat) = none) : titlecase c = [c] := by
  rw [titlecase, expansions]
  dsimp only
  rw [mapByRuns, runs]

theorem titlecase_of_not_mapped {c : Char} (h : c.toNat ∉ titleMapped) : titlecase c = [c] := by
  rw [titleMapped, List.mem_append, not_or] at h
  refine titlecase_of_find?_eq_none ?_ ?_
  · refine List.find?_eq_none.2 fun e he hc => h.2 ?_
    exact List.mem_map.2 ⟨e, he, eq_of_beq hc⟩
  · refine List.find?_eq_none.2 fun r hr hc => h.1 ?_
    exact List.mem_flatMap.2 ⟨r, hr, CaseRun.mem_sources hc⟩

theorem titleFirst_not_mapped : bitsOf titleFirst &&& bitsOf titleMapped = 0 := by
  decide +kernel

theorem titlecase_ofNat {n : Nat} (h : n ∈ titleFirst) :
    titlecase (Char.ofNat n) = [Char.ofNat n] := by
  refine titlecase_of_not_mapped (not_mem_of_bitsOf titleFirst_not_mapped ?_)
  by_cases hz : Char.ofNat n = '\x00'
  · rw [hz]
    exact List.mem_cons_self
  · rwa [← toNat_of_ofNat_eq rfl hz]

/-- The first character of what title case gives is in title case. -/
theorem titlecase_head {c t : Char} (h : (titlecase c).head? = some t) : titlecase t = [t] := by
  unfold titlecase at h
  cases he : titleExpansions.find? (·.1 == c.toNat) with
  | some e =>
    rw [he, List.head?_map, Option.map_eq_some_iff] at h
    obtain ⟨n, hn, rfl⟩ := h
    refine titlecase_ofNat (List.mem_append_right _ (List.mem_filterMap.2 ⟨e, ?_, hn⟩))
    exact List.mem_of_find?_eq_some he
  | none =>
    rw [he] at h
    obtain rfl : mapByRuns titleRuns c = t := by simpa using h
    unfold mapByRuns
    cases hr : titleRuns.find? (·.covers c.toNat) with
    | some r =>
      have hc : r.covers c.toNat = true := by simpa using List.find?_some hr
      refine titlecase_ofNat (List.mem_append_left _ (List.mem_cons_of_mem _ ?_))
      refine List.mem_flatMap.2 ⟨r, List.mem_of_find?_eq_some hr, ?_⟩
      exact List.mem_map.2 ⟨c.toNat, CaseRun.mem_sources hc, rfl⟩
    | none => exact titlecase_of_find?_eq_none he hr

end Text

namespace Naming
open Text

/-! ## Names that stay as they are -/

theorem camelFrom_of_not_mem {cs : List Char} (h : '_' ∉ cs) :
    camelFrom true cs = capitalized cs := by
  obtain ⟨s, ss, hs, _, start⟩ := camelFrom_eq_segments cs
  rw [segments_of_not_mem h] at hs
  obtain ⟨rfl, rfl⟩ := List.cons.inj hs
  rw [start, List.flatMap_singleton]

theorem capitalized_eq_self_iff {cs : List Char} :
    capitalized cs = cs ↔ ∀ c ∈ cs.head?, titlecase c = [c] := by
  cases cs with
  | nil => simp [capitalized]
  | cons c cs =>
    rw [capitalized, ← List.singleton_append, List.append_cancel_right_eq]
    simp

theorem camelFrom_eq_self_iff {cs : List Char} :
    camelFrom true cs = cs ↔ '_' ∉ cs ∧ ∀ c ∈ cs.head?, titlecase c = [c] := by
  constructor
  · intro h
    have hu : '_' ∉ cs := h ▸ underscore_not_mem_camelFrom true cs
    rw [camelFrom_of_not_mem hu] at h
    exact ⟨hu, capitalized_eq_self_iff.1 h⟩
  · intro ⟨hu, hc⟩
    rw [camelFrom_of_not_mem hu]
    exact capitalized_eq_self_iff.2 hc

/-- The names in upper camel case. -/
theorem upperCamel_eq_self_iff {name : String} :
    upperCamel name = name ↔ '_' ∉ name.toList ∧ ∀ c ∈ name.toList.head?, titlecase c = [c] := by
  rw [upperCamel, ← String.toList_inj, String.toList_ofList, camelFrom_eq_self_iff]

/-! ## A second time -/

theorem camelFrom_head (cs : List Char) :
    ∀ t ∈ (camelFrom true cs).head?, titlecase t = [t] := by
  induction cs with
  | nil => exact nofun
  | cons c cs ih =>
    intro t ht
    rw [camelFrom] at ht
    by_cases hc : c = '_'
    · rw [if_pos hc] at ht
      exact ih t ht
    · rw [if_neg hc, if_pos rfl, List.head?_append_of_ne_nil _ (titlecase_ne_nil c)] at ht
      exact titlecase_head ht

theorem camelFrom_camelFrom (cs : List Char) :
    camelFrom true (camelFrom true cs) = camelFrom true cs :=
  camelFrom_eq_self_iff.2 ⟨underscore_not_mem_camelFrom true cs, camelFrom_head cs⟩

theorem declared_declared (name : String) : declared (declared name) = declared name := by
  have hdot := dot_not_mem_declared name
  rw [declared, beforeFirst_of_not_mem hdot, declared, String.toList_ofList, camelFrom_camelFrom]

/-- Upper camel case has no underscore, and it is a normal form: the names it leaves alone are known
by their characters, and its results are among them. Nothing of it is lost in lower camel case or in
a declared name either. -/
theorem upperCamel_normal (name : String) :
    (upperCamel name = name ↔
      '_' ∉ name.toList ∧ ∀ c ∈ name.toList.head?, titlecase c = [c]) ∧
    '_' ∉ (upperCamel name).toList ∧
    upperCamel (upperCamel name) = upperCamel name ∧
    lowerCamel (upperCamel name) = lowerCamel name ∧
    declared (declared name) = declared name := by
  have again : camelFrom true (upperCamel name).toList = camelFrom true name.toList := by
    rw [upperCamel, String.toList_ofList, camelFrom_camelFrom]
  refine ⟨upperCamel_eq_self_iff, ?_, ?_, ?_, declared_declared name⟩
  · rw [upperCamel, String.toList_ofList]
    exact underscore_not_mem_camelFrom true _
  · rw [upperCamel, again, upperCamel]
  · rw [lowerCamel, again, lowerCamel]

/-- The title case of the sharp s has two characters and that of the digraph is a third case. -/
example : upperCamel "ßtraße_ǆungla" = "Sstraßeǅungla" ∧
    upperCamel "Sstraßeǅungla" = "Sstraßeǅungla" := by
  decide +kernel

end Naming

end ServiceScaffold

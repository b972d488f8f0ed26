import Mathlib.Data.List.Basic
import ServiceScaffold.Proofs.Naming.Separators

/-!
# The spellings of a name in upper camel case

Upper camel case puts the words of a name, which underscores set apart, one behind the other, each
with its first character in title case. Backwards there may be several answers: a capital starts a
word or stands inside one, and it may have been a small letter. `readings` lists all of them in one
pass over the result (`mem_readings`), so that the spellings of a given name can be computed
(`upperCamel_eq_iff`).
-/
namespace ServiceScaffold

namespace Text

/-! ## Title case backwards -/

/-- The code point that the run shifts to the character. -/
def CaseRun.source (r : CaseRun) (x : Char) : Nat :=
  (x.toNat - r.shift).toNat

/-- The characters whose title case begins with `x`. By the tables it is `x` itself, or what a run
shifts to `x`, or one of several characters, the first of which is `x`. -/
def titleSources (x : Char) : List Char :=
  (x :: ((titleRuns.filter fun r => r.covers (r.source x)).map fun r => Char.ofNat (r.source x))
    ++ (titleExpansions.filter fun e => e.2.head? = some x.toNat).map fun e => Char.ofNat e.1).filter
      fun c => (titlecase c).head? = some x

theorem mem_titleSources {x : Char} (hx : x ≠ '\x00') (c : Char) :
    c ∈ titleSources x ↔ (titlecase c).head? = some x := by
  rw [titleSources, List.mem_filter, decide_eq_true_iff, and_iff_right_iff_imp]
  intro h
  unfold titlecase at h
  cases he : titleExpansions.find? (·.1 == c.toNat) with
  | some e =>
    have hc : e.1 = c.toNat := by simpa using List.find?_some he
    rw [he, List.head?_map, Option.map_eq_some_iff] at h
    obtain ⟨n, hn, hnx⟩ := h
    rw [toNat_of_ofNat_eq hnx hx] at hn
    refine List.mem_append_right _ (List.mem_map.2 ⟨e, List.mem_filter.2 ⟨?_, by simp [hn]⟩, ?_⟩)
    · exact List.mem_of_find?_eq_some he
    · rw [hc, Char.ofNat_toNat]
  | none =>
    rw [he] at h
    have hmap : mapByRuns titleRuns c = x := by simpa using h
    refine List.mem_append_left _ (List.mem_cons.2 ?_)
    unfold mapByRuns at hmap
    cases hr : titleRuns.find? (·.covers c.toNat) with
    | none =>
      rw [hr] at hmap
      exact .inl hmap
    | some r =>
      rw [hr] at hmap
      have hcovers : r.covers c.toNat = true := by simpa using List.find?_some hr
      have hn := toNat_of_ofNat_eq hmap hx
      have hpos : 0 < x.toNat := Nat.pos_of_ne_zero fun h0 => hx (Char.toNat_inj.1 h0)
      have hc : r.source x = c.toNat := by
        rw [CaseRun.source]
        omega
      refine .inr (List.mem_map.2 ⟨r, List.mem_filter.2 ⟨?_, ?_⟩, ?_⟩)
      · exact List.mem_of_find?_eq_some hr
      · rw [hc, hcovers]
      · rw [hc, Char.ofNat_toNat]

end Text

namespace Naming
open Text

/-! ## Words -/

/-- What stands between the underscores of a name, where something does. -/
def wordsIn (cs : List Char) : List (List Char) :=
  (segments '_' cs).filter (· ≠ [])

/-- A word with its first character in title case. -/
def capitalized : List Char → List Char
  | [] => []
  | c :: cs => titlecase c ++ cs

theorem capitalized_eq_nil_iff (word : List Char) : capitalized word = [] ↔ word = [] := by
  cases word with
  | nil => simp [capitalized]
  | cons c cs => simp [capitalized, titlecase_ne_nil]

theorem flatMap_capitalized_filter (words : List (List Char)) :
    (words.filter (· ≠ [])).flatMap capitalized = words.flatMap capitalized := by
  induction words with
  | nil => rfl
  | cons w ws ih =>
    by_cases hw : w = []
    · rw [List.filter_cons_of_neg (by simpa using hw), ih, hw]
      rfl
    · rw [List.filter_cons_of_pos (by simpa using hw), List.flatMap_cons, ih, List.flatMap_cons]

/-- The first segment goes on with the word that is under way, and every other one is a word. -/
theorem camelFrom_eq_segments (cs : List Char) : ∃ s ss, segments '_' cs = s :: ss ∧
    camelFrom false cs = s ++ ss.flatMap capitalized ∧
    camelFrom true cs = (s :: ss).flatMap capitalized := by
  induction cs with
  | nil => exact ⟨[], [], rfl, rfl, rfl⟩
  | cons c cs ih =>
    obtain ⟨s, ss, hs, inside, start⟩ := ih
    by_cases hc : c = '_'
    · refine ⟨[], s :: ss, ?_, ?_, ?_⟩
      · rw [segments, if_pos hc, hs]
      · rw [camelFrom, if_pos hc, start, List.nil_append]
      · rw [camelFrom, if_pos hc, start]
        rfl
    · refine ⟨c :: s, ss, ?_, ?_, ?_⟩
      · rw [segments, if_neg hc, hs]
      · rw [camelFrom, if_neg hc, inside]
        rfl
      · rw [camelFrom, if_neg hc, inside, List.flatMap_cons, capitalized, List.append_assoc]
        rfl

theorem camelFrom_eq_words (cs : List Char) :
    camelFrom true cs = (wordsIn cs).flatMap capitalized := by
  obtain ⟨s, ss, hs, _, start⟩ := camelFrom_eq_segments cs
  rw [start, wordsIn, flatMap_capitalized_filter, hs]

/-! ## Readings -/

/-- A text as the end of a word and further words, in all ways: its first character either goes on
with a word, or is what begins the title case of the first character of one. -/
def readings : List Char → List (List Char × List (List Char))
  | [] => [([], [])]
  | x :: xs => (readings xs).flatMap fun (inside, words) =>
      (x :: inside, words) :: (titleSources x).filterMap fun c =>
        ((x :: inside).dropPrefix? (titlecase c)).map fun word => ([], (c :: word) :: words)

theorem mem_readings_cons {x : Char} (hx : x ≠ '\x00') {xs inside : List Char}
    {words : List (List Char)} : (inside, words) ∈ readings (x :: xs) ↔
      ∃ before ws, (before, ws) ∈ readings xs ∧
        (inside = x :: before ∧ words = ws ∨
          ∃ c word, titlecase c ++ word = x :: before ∧ inside = [] ∧ words = (c :: word) :: ws) := by
  simp only [readings, List.mem_flatMap, Prod.exists, List.mem_cons, List.mem_filterMap,
    Option.map_eq_some_iff, List.dropPrefix?_eq_some_iff, mem_titleSources hx, Prod.mk.injEq,
    beq_iff_eq]
  refine exists₂_congr fun before ws => and_congr_right fun _ => or_congr_right ?_
  constructor
  · rintro ⟨c, _, word, ⟨_, hsplit, rfl⟩, rfl, rfl⟩
    exact ⟨c, word, hsplit.symm, rfl, rfl⟩
  · rintro ⟨c, word, hsplit, rfl, rfl⟩
    obtain ⟨y, ys, hc⟩ := List.exists_cons_of_ne_nil (titlecase_ne_nil c)
    have hy : y = x := by
      rw [hc] at hsplit
      exact (List.cons.inj hsplit).1
    exact ⟨c, by rw [hc, hy]; rfl, word, ⟨_, hsplit.symm, rfl⟩, rfl, rfl⟩

theorem mem_readings {xs : List Char} (hx : '\x00' ∉ xs) {inside : List Char}
    {words : List (List Char)} : (inside, words) ∈ readings xs ↔
      inside ++ words.flatMap capitalized = xs ∧ [] ∉ words := by
  induction xs generalizing inside words with
  | nil =>
    rw [readings, List.mem_singleton, Prod.mk.injEq, List.append_eq_nil_iff, List.flatMap_eq_nil_iff]
    constructor
    · rintro ⟨rfl, rfl⟩
      exact ⟨⟨rfl, nofun⟩, List.not_mem_nil⟩
    · rintro ⟨⟨rfl, hw⟩, hne⟩
      refine ⟨rfl, List.eq_nil_iff_forall_not_mem.2 fun w hmem => hne ?_⟩
      exact (capitalized_eq_nil_iff w).1 (hw w hmem) ▸ hmem
  | cons x xs ih =>
    rw [List.mem_cons, not_or] at hx
    rw [mem_readings_cons (Ne.symm hx.1)]
    constructor
    · rintro ⟨before, ws, hmem, ⟨rfl, rfl⟩ | ⟨c, word, hsplit, rfl, rfl⟩⟩
      · obtain ⟨rfl, hne⟩ := (ih hx.2).1 hmem
        exact ⟨rfl, hne⟩
      · obtain ⟨rfl, hne⟩ := (ih hx.2).1 hmem
        refine ⟨?_, by simp [hne]⟩
        rw [List.nil_append, List.flatMap_cons, capitalized, hsplit]
        rfl
    · rintro ⟨he, hne⟩
      cases inside with
      | cons y before =>
        obtain ⟨rfl, tail⟩ := List.cons.inj he
        exact ⟨before, words, (ih hx.2).2 ⟨tail, hne⟩, .inl ⟨rfl, rfl⟩⟩
      | nil =>
        -- the text begins with the first word, which is not empty
        match words with
        | [] => cases he
        | [] :: ws => exact absurd List.mem_cons_self hne
        | (c :: word) :: ws =>
          obtain ⟨y, ys, hc⟩ := List.exists_cons_of_ne_nil (titlecase_ne_nil c)
          rw [List.nil_append, List.flatMap_cons, capitalized, hc] at he
          obtain ⟨rfl, tail⟩ := List.cons.inj he
          refine ⟨ys ++ word, ws, (ih hx.2).2 ⟨tail, fun h => hne (List.mem_cons_of_mem _ h)⟩, .inr ?_⟩
          exact ⟨c, word, by rw [hc]; rfl, rfl, rfl⟩

/-! ## Spellings -/

/-- The words of a name. -/
def wordsOf (name : String) : List String :=
  (wordsIn name.toList).map String.ofList

/-- All names in upper camel case, by their words, that are spelled like the target. -/
def spellings (target : String) : List (List String) :=
  (readings target.toList).filterMap fun (inside, words) =>
    if inside = [] then some (words.map String.ofList) else none

/-- A name is spelled like the target in upper camel case exactly when its words are among the
spellings. -/
theorem upperCamel_eq_iff {target : String} (ht : '\x00' ∉ target.toList) (name : String) :
    upperCamel name = target ↔ wordsOf name ∈ spellings target := by
  have words : [] ∉ wordsIn name.toList := by simp [wordsIn]
  have inj : Function.Injective (List.map String.ofList) :=
    List.map_injective_iff.2 fun _ _ => String.ofList_inj.1
  calc upperCamel name = target
      ↔ camelFrom true name.toList = target.toList := by
        rw [upperCamel, ← String.toList_inj, String.toList_ofList]
    _ ↔ ([], wordsIn name.toList) ∈ readings target.toList := by
        rw [mem_readings ht, List.nil_append, camelFrom_eq_words, and_iff_left words]
    _ ↔ wordsOf name ∈ spellings target := by
        simp only [spellings, List.mem_filterMap, Prod.exists, wordsOf, Option.ite_none_right_eq_some,
          Option.some.injEq, inj.eq_iff]
        simp

/-- A dotless i has the capital of an i. -/
example : spellings "IdNo" = [["IdNo"], ["idNo"], ["ıdNo"], ["Id", "No"], ["id", "No"], ["ıd", "No"],
    ["Id", "no"], ["id", "no"], ["ıd", "no"]] := by
  decide +kernel

end Naming

end ServiceScaffold

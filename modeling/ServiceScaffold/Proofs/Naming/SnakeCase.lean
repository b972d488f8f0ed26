import Mathlib.Data.List.Chain
import ServiceScaffold.Proofs.Naming.CamelCase

/-!
# Names in snake case

A name is cut in front of each character that starts a word, and the words are set in small letters
with an underscore at each cut (`splitWords_eq_intercalate`). Upper camel case puts the words of a
name in such a form that the cuts fall between them and nowhere else (`splitWords_flatten`), so that
snake case brings the name back; its own results have no capitals, and nothing is cut a second time.
-/
namespace ServiceScaffold

namespace Text

/-! ## ASCII -/

theorem isUpperAscii_eq (c : Char) : isUpperAscii c = c.isUpper := by
  rw [isUpperAscii, ← Bool.decide_and]
  rfl

theorem isAlphanum_iff {c : Char} : c.isAlphanum = true ↔
    (isUpperAscii c = true ∨ isLowerAscii c = true) ∨ isDigitAscii c = true := by
  show (c.isUpper || c.isLower || c.isDigit) = true ↔ _
  rw [Bool.or_eq_true, Bool.or_eq_true, isUpperAscii_eq]
  rfl

theorem ascii_of_isAlphanum {c : Char} (h : c.isAlphanum = true) : c.toNat < 128 := by
  rcases Bool.or_eq_true_iff.1 h with h | h
  · have := isAlpha_bounds h
    omega
  · have := isDigit_bounds h
    omega

theorem lowerChar_of_ascii : ∀ c : Char, c.toNat < 128 → lowerChar c = [c.toLower] :=
  of_ascii (by decide +kernel)

theorem toLower_of_ascii : ∀ c : Char, c.toNat < 128 → c.toLower.toNat < 128 ∧
    isUpperAscii c.toLower = false ∧ (isUpperAscii c = false → c.toLower = c) :=
  of_ascii (by decide +kernel)

theorem isAlphanum_toLower : ∀ c : Char, c.toNat < 128 → c.isAlphanum = true →
    c.toLower.isAlphanum = true :=
  of_ascii (by decide +kernel)

theorem titlecase_of_isLowerAscii : ∀ c : Char, c.toNat < 128 → isLowerAscii c = true →
    titlecase c = [c.toUpper] ∧ c.toUpper.toNat < 128 ∧ isUpperAscii c.toUpper = true ∧
      c.toUpper.toLower = c :=
  of_ascii (by decide +kernel)

def IsAscii (s : List Char) : Prop := ∀ c ∈ s, c.toNat < 128

theorem lowercase_of_ascii {s : List Char} (h : IsAscii s) : lowercase s = s.map Char.toLower := by
  have hsigma : 'Σ' ∉ s := fun hm => absurd (h _ hm) (by decide)
  rw [lowercase_eq_flatMap hsigma, ← List.flatMap_pure_eq_map]
  exact List.flatMap_congr fun c hc => lowerChar_of_ascii c (h c hc)

end Text

/-! ## Words -/

namespace Naming
open Text

section Intercalate

variable {α : Type} {sep : α}

theorem intercalate_cons_cons (a : α) (w : List α) (words : List (List α)) :
    [sep].intercalate ((a :: w) :: words) = a :: [sep].intercalate (w :: words) := by
  cases words with
  | nil => rw [List.intercalate_singleton, List.intercalate_singleton]
  | cons v words => rw [List.intercalate_cons_cons, List.intercalate_cons_cons]; rfl

theorem map_intercalate {β : Type} (f : α → β) (words : List (List α)) :
    ([sep].intercalate words).map f = [f sep].intercalate (words.map (List.map f)) := by
  induction words with
  | nil => rfl
  | cons w words ih =>
    cases words with
    | nil => simp only [List.intercalate_singleton, List.map_cons, List.map_nil]
    | cons v words =>
      rw [List.intercalate_cons_cons, List.map_append, List.map_append, ih]
      simp only [List.map_cons, List.map_nil, List.intercalate_cons_cons]

end Intercalate

/-- One word ends in a letter or a digit of ASCII, and the other one begins with one. -/
def Adjoin (u v : List Char) : Prop :=
  ∃ a ∈ u.getLast?, ∃ b ∈ v.head?, a.isAlphanum = true ∧ b.isAlphanum = true

theorem Adjoin.map_toLower {u v : List Char} (h : Adjoin u v) :
    Adjoin (u.map Char.toLower) (v.map Char.toLower) := by
  obtain ⟨a, ha, b, hb, halpha, hbeta⟩ := h
  refine ⟨a.toLower, ?_, b.toLower, ?_, ?_, ?_⟩
  · rw [List.getLast?_map, ha]
    rfl
  · rw [List.head?_map, hb]
    rfl
  · exact isAlphanum_toLower a (ascii_of_isAlphanum halpha) halpha
  · exact isAlphanum_toLower b (ascii_of_isAlphanum hbeta) hbeta

theorem isAlphanum_of_startsWord {a b : Char} {next : Option Char}
    (h : startsWord a b next = true) : a.isAlphanum = true ∧ b.isAlphanum = true := by
  simp only [startsWord, Bool.and_eq_true, Bool.or_eq_true] at h
  rw [isAlphanum_iff, isAlphanum_iff]
  exact ⟨h.2.elim (.imp_left .inr) fun h => .inl (.inl h.1), .inl (.inl h.1)⟩

/-- A name that begins with `c` is cut into words, the first of which begins with `c`. -/
theorem splitWords_cons (c : Char) (cs : List Char) : ∃ w words,
    ((c :: w) :: words).flatten = c :: cs ∧
    splitWords (c :: cs) = ['_'].intercalate ((c :: w) :: words) ∧
    ((c :: w) :: words).IsChain Adjoin := by
  induction cs generalizing c with
  | nil => exact ⟨[], [], rfl, rfl, .singleton _⟩
  | cons b cs ih =>
    obtain ⟨w, words, hflat, hsplit, hchain⟩ := ih b
    rw [splitWords]
    by_cases h : startsWord c b cs.head? = true
    · obtain ⟨hc, hb⟩ := isAlphanum_of_startsWord h
      refine ⟨[], (b :: w) :: words, ?_, ?_, ?_⟩
      · rw [List.flatten_cons, hflat]
        rfl
      · rw [if_pos h, hsplit, List.intercalate_cons_cons]
        rfl
      · exact .cons_cons ⟨c, rfl, b, rfl, hc, hb⟩ hchain
    · refine ⟨b :: w, words, ?_, ?_, ?_⟩
      · rw [List.flatten_cons, List.cons_append, ← List.flatten_cons, hflat]
      · rw [if_neg h, hsplit, intercalate_cons_cons c]
      · cases words with
        | nil => exact .singleton _
        | cons v words =>
          obtain ⟨⟨a, ha, hv⟩, hchain⟩ := List.isChain_cons_cons.1 hchain
          exact .cons_cons ⟨a, by rwa [List.getLast?_cons_cons], hv⟩ hchain

/-- The underscores that are put in stand between words, each next to a letter or a digit on both
sides. -/
theorem splitWords_eq_intercalate (cs : List Char) : ∃ words : List (List Char),
    words.flatten = cs ∧ splitWords cs = ['_'].intercalate words ∧ words.IsChain Adjoin := by
  cases cs with
  | nil => exact ⟨[], rfl, rfl, .nil⟩
  | cons c cs =>
    obtain ⟨w, words, h⟩ := splitWords_cons c cs
    exact ⟨(c :: w) :: words, h⟩

theorem splitWords_of_not_isUpper {cs : List Char} (h : ∀ c ∈ cs, isUpperAscii c = false) :
    splitWords cs = cs := by
  fun_induction splitWords cs with
  | case1 a b cs hs _ =>
    rw [startsWord, h b (by simp)] at hs
    cases hs
  | case2 a b cs _ ih => rw [ih fun c hc => h c (List.mem_cons_of_mem _ hc)]
  | case3 => rfl

/-! ## Names in upper camel case -/

def isSmall (c : Char) : Bool := isLowerAscii c || isDigitAscii c

theorem isAlphanum_of_isSmall {c : Char} (h : isSmall c = true) : c.isAlphanum = true := by
  rw [isSmall, Bool.or_eq_true] at h
  exact isAlphanum_iff.2 (h.imp_left .inr)

theorem isSmall_of_ascii : ∀ c : Char, c.toNat < 128 → isSmall c = true →
    isUpperAscii c = false ∧ c ≠ '_' :=
  of_ascii (by decide +kernel)

theorem ascii_of_isSmall {c : Char} (h : isSmall c = true) : c.toNat < 128 :=
  ascii_of_isAlphanum (isAlphanum_of_isSmall h)

theorem startsWord_of_isSmall {a b : Char} {next : Option Char} (h : isSmall b = true) :
    startsWord a b next = false := by
  rw [startsWord, (isSmall_of_ascii b (ascii_of_isSmall h) h).1]
  rfl

section Small

variable {c v : Char} {cs rest : List Char} (hs : ∀ x ∈ cs, isSmall x = true)
include hs

theorem splitWords_of_isSmall : splitWords (c :: cs) = c :: cs := by
  induction cs generalizing c with
  | nil => rfl
  | cons d cs ih =>
    rw [List.forall_mem_cons] at hs
    rw [splitWords, startsWord_of_isSmall hs.1, ih hs.2]
    rfl

/-- The capital behind small letters is cut off, and nothing in front of it. -/
theorem splitWords_append (hl : cs = [] → isSmall c = true) (hv : isUpperAscii v = true) :
    splitWords (c :: (cs ++ v :: rest)) = c :: (cs ++ '_' :: splitWords (v :: rest)) := by
  induction cs generalizing c with
  | nil =>
    have hstart : startsWord c v rest.head? = true := by
      rw [startsWord, hv, ← isSmall, hl rfl]
      rfl
    rw [List.nil_append, splitWords, if_pos hstart]
    rfl
  | cons d cs ih =>
    rw [List.forall_mem_cons] at hs
    rw [List.cons_append, splitWords, startsWord_of_isSmall hs.1, ih hs.2 fun _ => hs.1]
    rfl

end Small

/-- A capital with small letters or digits behind it, at least one of them. -/
inductive IsCapitalized : List Char → Prop
  | mk {c d cs} : isUpperAscii c = true → (∀ x ∈ d :: cs, isSmall x = true) →
      IsCapitalized (c :: d :: cs)

/-- Words of this form are cut where one follows the other. -/
theorem splitWords_flatten {words : List (List Char)} (h : ∀ w ∈ words, IsCapitalized w) :
    splitWords words.flatten = ['_'].intercalate words := by
  induction words with
  | nil => rfl
  | cons w words ih =>
    rw [List.forall_mem_cons] at h
    obtain ⟨@⟨c, d, cs, _, hs⟩, h⟩ := h
    cases words with
    | nil =>
      rw [List.flatten_singleton, List.intercalate_singleton]
      exact splitWords_of_isSmall hs
    | cons v words =>
      have hflat := ih h
      obtain ⟨@⟨v, e, vs, hv, _⟩, _⟩ := List.forall_mem_cons.1 h
      rw [List.intercalate_cons_cons, ← hflat, List.flatten_cons, List.flatten_cons]
      refine (splitWords_append hs nofun hv).trans ?_
      rw [List.append_assoc]
      rfl

/-! ## There and back -/

/-- A small letter with small letters or digits behind it, at least one of them. -/
inductive IsSegment : List Char → Prop
  | mk {c d cs} : isLowerAscii c = true → (∀ x ∈ d :: cs, isSmall x = true) →
      IsSegment (c :: d :: cs)

theorem isSmall_of_isLowerAscii {c : Char} (h : isLowerAscii c = true) : isSmall c = true := by
  rw [isSmall, h, Bool.true_or]

theorem IsSegment.isSmall {s : List Char} (h : IsSegment s) : ∀ c ∈ s, isSmall c = true := by
  obtain ⟨hc, hs⟩ := h
  exact List.forall_mem_cons.2 ⟨isSmall_of_isLowerAscii hc, hs⟩

theorem IsSegment.not_mem {s : List Char} (h : IsSegment s) : '_' ∉ s := fun hm =>
  (isSmall_of_ascii '_' (by decide) (h.isSmall _ hm)).2 rfl

theorem map_toLower_of_isSmall {s : List Char} (h : ∀ c ∈ s, isSmall c = true) :
    s.map Char.toLower = s := by
  refine (List.map_congr_left fun c hc => ?_).trans (List.map_id s)
  have hascii := ascii_of_isSmall (h c hc)
  exact (toLower_of_ascii c hascii).2.2 (isSmall_of_ascii c hascii (h c hc)).1

theorem IsSegment.capitalized_eq {s : List Char} (h : IsSegment s) :
    IsCapitalized (capitalized s) ∧ IsAscii (capitalized s) ∧
      (capitalized s).map Char.toLower = s := by
  obtain @⟨c, d, cs, hc, hs⟩ := h
  obtain ⟨ht, hascii, hup, hback⟩ :=
    titlecase_of_isLowerAscii c (ascii_of_isSmall (isSmall_of_isLowerAscii hc)) hc
  have he : capitalized (c :: d :: cs) = c.toUpper :: d :: cs := by rw [capitalized, ht]; rfl
  rw [he]
  refine ⟨.mk hup hs, List.forall_mem_cons.2 ⟨hascii, fun x hx => ascii_of_isSmall (hs x hx)⟩, ?_⟩
  rw [List.map_cons, hback, map_toLower_of_isSmall hs]

theorem segments_intercalate {sep : Char} {words : List (List Char)} (hne : words ≠ [])
    (h : ∀ w ∈ words, sep ∉ w) : segments sep ([sep].intercalate words) = words := by
  induction words with
  | nil => exact absurd rfl hne
  | cons w words ih =>
    rw [List.forall_mem_cons] at h
    cases words with
    | nil => rw [List.intercalate_singleton, segments_of_not_mem h.1]
    | cons v words =>
      rw [List.intercalate_cons_cons, ← List.append_cons, segments_append, segments_of_not_mem h.1,
        ih (List.cons_ne_nil v words) h.2]
      rfl

/-- The words of a name that are joined by underscores. -/
theorem camelFrom_intercalate {words : List (List Char)} (h : ∀ w ∈ words, '_' ∉ w) :
    camelFrom true (['_'].intercalate words) = (words.map capitalized).flatten := by
  by_cases hne : words = []
  · rw [hne]
    rfl
  · obtain ⟨s, ss, hs, _, start⟩ := camelFrom_eq_segments (['_'].intercalate words)
    rw [segments_intercalate hne h] at hs
    rw [start, ← hs, List.flatMap_def]

theorem isAscii_splitWords {cs : List Char} (h : IsAscii cs) : IsAscii (splitWords cs) := by
  intro c hc
  rcases mem_splitWords hc with rfl | hc
  · decide
  · exact h c hc

theorem toList_snake {name : String} (h : IsAscii name.toList) :
    (snake name).toList = (splitWords name.toList).map Char.toLower := by
  rw [snake, String.toList_ofList, lowercase_of_ascii (isAscii_splitWords h)]

theorem toList_lower {name : String} (h : IsAscii name.toList) :
    (lower name).toList = name.toList.map Char.toLower := by
  rw [lower, String.toList_ofList, lowercase_of_ascii h]

theorem snake_upperCamel {parts : List String} (h : ∀ s ∈ parts, IsSegment s.toList) :
    snake (upperCamel ("_".intercalate parts)) = "_".intercalate parts := by
  have hwords : ∀ w ∈ parts.map String.toList, IsSegment w := List.forall_mem_map.2 h
  generalize hw : parts.map String.toList = words at hwords
  have hname : ("_".intercalate parts).toList = ['_'].intercalate words := by
    rw [String.toList_intercalate, hw]
    rfl
  have hcamel : (upperCamel ("_".intercalate parts)).toList = (words.map capitalized).flatten := by
    rw [upperCamel, String.toList_ofList, hname]
    exact camelFrom_intercalate fun w hw => (hwords w hw).not_mem
  have hascii : IsAscii (words.map capitalized).flatten := by
    intro c hc
    obtain ⟨_, hmem, hc⟩ := List.mem_flatten.1 hc
    obtain ⟨w, hw, rfl⟩ := List.mem_map.1 hmem
    exact (hwords w hw).capitalized_eq.2.1 c hc
  rw [← String.toList_inj, toList_snake (hcamel ▸ hascii), hcamel, hname,
    splitWords_flatten (List.forall_mem_map.2 fun w hw => (hwords w hw).capitalized_eq.1),
    map_intercalate, List.map_map]
  refine congrArg _ ((List.map_congr_left fun w hw => ?_).trans (List.map_id words))
  exact (hwords w hw).capitalized_eq.2.2

theorem snake_snake {name : String} (h : IsAscii name.toList) :
    snake (snake name) = snake name := by
  have hlist := toList_snake h
  have small : ∀ c ∈ (snake name).toList, c.toNat < 128 ∧ isUpperAscii c = false := by
    rw [hlist]
    intro c hc
    obtain ⟨b, hb, rfl⟩ := List.mem_map.1 hc
    obtain ⟨hascii, hup, _⟩ := toLower_of_ascii b (isAscii_splitWords h b hb)
    exact ⟨hascii, hup⟩
  rw [← String.toList_inj, toList_snake fun c hc => (small c hc).1,
    splitWords_of_not_isUpper fun c hc => (small c hc).2]
  refine (List.map_congr_left fun c hc => ?_).trans (List.map_id _)
  obtain ⟨hascii, hup⟩ := small c hc
  exact (toLower_of_ascii c hascii).2.2 hup

/-- The words of a name in small letters, between which snake case puts its underscores. -/
theorem snake_eq_intercalate {name : String} (h : IsAscii name.toList) :
    ∃ words : List (List Char), words.flatten = (lower name).toList ∧
      (snake name).toList = ['_'].intercalate words ∧ words.IsChain Adjoin := by
  obtain ⟨words, hflat, hsplit, hchain⟩ := splitWords_eq_intercalate name.toList
  refine ⟨words.map (List.map Char.toLower), ?_, ?_, ?_⟩
  · rw [← List.map_flatten, hflat, toList_lower h]
  · rw [toList_snake h, hsplit, map_intercalate]
    rfl
  · rw [List.isChain_map]
    exact hchain.imp fun _ _ hs => hs.map_toLower

/-- Snake case brings back the name that upper camel case was made of. Of a name in ASCII it keeps
all characters in small letters, puts underscores between letters or digits only, and leaves the
result alone a second time. -/
theorem snake_separates :
    (∀ parts : List String, (∀ s ∈ parts, IsSegment s.toList) →
      snake (upperCamel ("_".intercalate parts)) = "_".intercalate parts) ∧
    ∀ name : String, IsAscii name.toList →
      snake (snake name) = snake name ∧
      (snake name).toList.filter (· ≠ '_') = (lower name).toList.filter (· ≠ '_') ∧
      ∃ words : List (List Char), words.flatten = (lower name).toList ∧
        (snake name).toList = ['_'].intercalate words ∧ words.IsChain Adjoin := by
  refine ⟨fun _ => snake_upperCamel, fun name h => ⟨snake_snake h, ?_, snake_eq_intercalate h⟩⟩
  obtain ⟨words, hflat, hsnake, _⟩ := snake_eq_intercalate h
  rw [hsnake, filter_intercalate, hflat]

/-- The segments of `http2_info` and the capitals of `HTTPInfo`. -/
theorem snake_separates_httpInfo :
    (∀ s ∈ ["http2", "info"], IsSegment s.toList) ∧
    snake (upperCamel ("_".intercalate ["http2", "info"])) = "_".intercalate ["http2", "info"] ∧
    IsAscii "HTTPInfo".toList ∧ snake (snake "HTTPInfo") = snake "HTTPInfo" := by
  have segments : ∀ s ∈ ["http2", "info"], IsSegment s.toList := by
    rw [List.forall_mem_cons, List.forall_mem_singleton]
    exact ⟨.mk rfl (List.all_eq_true.1 rfl), .mk rfl (List.all_eq_true.1 rfl)⟩
  have ascii : IsAscii "HTTPInfo".toList := by
    have all : "HTTPInfo".toList.all (·.toNat < 128) = true := by decide
    simpa only [IsAscii, List.all_eq_true, decide_eq_true_eq] using all
  exact ⟨segments, snake_separates.1 _ segments, ascii, (snake_separates.2 _ ascii).1⟩

/-- A run of capitals is cut in front of its last one when a small letter follows. -/
example : snake "HTTPInfo_id2Name" = "http_info_id2_name" := by decide +kernel

end Naming

end ServiceScaffold

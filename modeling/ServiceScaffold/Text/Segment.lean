/-!
# Segments of a text

Cutting a text at a separator: at its first occurrence, after its last one, or at every one.
-/
namespace ServiceScaffold.Text

/-- What stands before the first `sep`, or the whole text when there is none. -/
def beforeFirst (sep : Char) (s : List Char) : List Char :=
  s.takeWhile (· ≠ sep)

/-- What stands after the last `sep`, or the whole text when there is none. -/
def afterLast (sep : Char) (s : List Char) : List Char :=
  (s.reverse.takeWhile (· ≠ sep)).reverse

/-- The pieces between the occurrences of `sep`, one more than there are occurrences. -/
def segments (sep : Char) : List Char → List (List Char)
  | [] => [[]]
  | c :: cs =>
    if c = sep then [] :: segments sep cs
    else match segments sep cs with
      | [] => [[c]]
      | s :: ss => (c :: s) :: ss

/-- A text without the suffix, or none when it does not end in it. -/
def dropSuffix? (suffix s : List Char) : Option (List Char) :=
  if suffix.isSuffixOf s then some (s.take (s.length - suffix.length)) else none

theorem not_mem_takeWhile_ne (sep : Char) (s : List Char) : sep ∉ s.takeWhile (· ≠ sep) := by
  induction s with
  | nil => simp
  | cons c cs ih =>
    by_cases h : c = sep
    · simp [h]
    · simpa [List.takeWhile_cons, h, Ne.symm h] using ih

theorem not_mem_beforeFirst (sep : Char) (s : List Char) : sep ∉ beforeFirst sep s :=
  not_mem_takeWhile_ne sep s

theorem beforeFirst_of_not_mem {sep : Char} {s : List Char} (h : sep ∉ s) :
    beforeFirst sep s = s := by
  induction s with
  | nil => rfl
  | cons c cs ih =>
    rw [List.mem_cons, not_or] at h
    have hc : decide (c ≠ sep) = true := decide_eq_true (Ne.symm h.1)
    rw [beforeFirst, List.takeWhile_cons, hc]
    exact congrArg (c :: ·) (ih h.2)

theorem not_mem_afterLast (sep : Char) (s : List Char) : sep ∉ afterLast sep s := fun h =>
  not_mem_takeWhile_ne sep s.reverse (List.mem_reverse.1 h)

theorem afterLast_suffix (sep : Char) (s : List Char) : afterLast sep s <:+ s := by
  simpa [afterLast] using
    List.reverse_suffix.2 (List.takeWhile_prefix (p := (· ≠ sep)) (l := s.reverse))

theorem segments_ne_nil (sep : Char) (s : List Char) : segments sep s ≠ [] := by
  cases s with
  | nil => exact List.cons_ne_nil _ _
  | cons c cs =>
    rw [segments]
    split
    · exact List.cons_ne_nil _ _
    · split <;> exact List.cons_ne_nil _ _

theorem segments_of_not_mem {sep : Char} {s : List Char} (h : sep ∉ s) : segments sep s = [s] := by
  induction s with
  | nil => rfl
  | cons c cs ih =>
    simp only [List.mem_cons, not_or] at h
    rw [segments, if_neg (Ne.symm h.1), ih h.2]

theorem segments_append (sep : Char) (a b : List Char) :
    segments sep (a ++ sep :: b) = segments sep a ++ segments sep b := by
  induction a with
  | nil => simp [segments]
  | cons c a ih =>
    rw [List.cons_append, segments, segments]
    split
    · rw [ih, List.cons_append]
    · obtain ⟨s, ss, hs⟩ := List.exists_cons_of_ne_nil (segments_ne_nil sep a)
      rw [ih, hs]
      rfl

theorem afterLast_append {sep : Char} {s : List Char} (h : sep ∉ s) (front : List Char) :
    afterLast sep (front ++ s) = afterLast sep front ++ s := by
  have hs : ∀ c ∈ s.reverse, decide (c ≠ sep) = true := by
    intro c hc
    have hm := List.mem_reverse.1 hc
    simpa using fun e : c = sep => h (e ▸ hm)
  rw [afterLast, List.reverse_append, List.takeWhile_append_of_pos hs, List.reverse_append,
    List.reverse_reverse]
  rfl

/-- What stands up to the last separator is empty or ends in it. -/
theorem eq_append_afterLast (sep : Char) (s : List Char) : ∃ front, s = front ++ afterLast sep s ∧
    (front = [] ∨ ∃ before, front = before ++ [sep]) := by
  refine ⟨(s.reverse.dropWhile (· ≠ sep)).reverse, ?_, ?_⟩
  · rw [afterLast, ← List.reverse_append, List.takeWhile_append_dropWhile, List.reverse_reverse]
  · cases hr : s.reverse.dropWhile (· ≠ sep) with
    | nil => exact .inl rfl
    | cons c rest =>
      have hc := List.head?_dropWhile_not (· ≠ sep) s.reverse
      rw [hr] at hc
      obtain rfl : c = sep := by simpa using hc
      exact .inr ⟨rest.reverse, List.reverse_cons⟩

theorem dropSuffix?_eq_some {suffix s r : List Char} :
    dropSuffix? suffix s = some r ↔ s = r ++ suffix := by
  unfold dropSuffix?
  split
  · next h =>
    obtain ⟨p, rfl⟩ := List.isSuffixOf_iff_suffix.1 h
    simp [eq_comm]
  · next h =>
    refine ⟨(nomatch ·), fun e => ?_⟩
    exact absurd (List.isSuffixOf_iff_suffix.2 ⟨r, e.symm⟩) h

/-- The separators put in are gone when all separators are taken out. -/
theorem filter_intercalate (sep : Char) (words : List (List Char)) :
    (List.intercalate [sep] words).filter (· ≠ sep) = words.flatten.filter (· ≠ sep) := by
  induction words with
  | nil => rfl
  | cons w words ih =>
    cases words with
    | nil => simp
    | cons v words =>
      rw [List.intercalate_cons_cons, List.filter_append, List.filter_append, ih,
        List.flatten_cons, List.filter_append]
      simp

end ServiceScaffold.Text

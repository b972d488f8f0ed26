/-!
# Places in a text

Lines and columns count from one, and a column is a number of characters. A line feed ends its
line.
-/
namespace ServiceScaffold.Schema

structure Position where
  line : Nat
  column : Nat
  deriving DecidableEq, Repr

namespace Position

def start : Position := ⟨1, 1⟩

def advance (p : Position) (c : Char) : Position :=
  if c = '\n' then ⟨p.line + 1, 1⟩ else ⟨p.line, p.column + 1⟩

def after (p : Position) (s : List Char) : Position :=
  s.foldl advance p

@[simp] theorem after_nil (p : Position) : p.after [] = p := rfl

@[simp] theorem after_cons (p : Position) (c : Char) (s : List Char) :
    p.after (c :: s) = (p.advance c).after s := rfl

theorem after_append (p : Position) (s t : List Char) :
    p.after (s ++ t) = (p.after s).after t := by
  simp [after]

theorem line_after (p : Position) (s : List Char) :
    (p.after s).line = p.line + s.count '\n' := by
  induction s generalizing p with
  | nil => simp
  | cons c s ih =>
    rw [after_cons, ih, advance]
    by_cases h : c = '\n'
    · subst h
      simp only [if_true, List.count_cons_self]
      omega
    · simp [h]

/-- Without a line feed the line stays and the column grows by the length. -/
theorem after_eq_of_not_mem {s : List Char} (h : '\n' ∉ s) (p : Position) :
    p.after s = ⟨p.line, p.column + s.length⟩ := by
  induction s generalizing p with
  | nil => simp
  | cons c s ih =>
    have hc : c ≠ '\n' := fun e => h (by simp [e])
    rw [after_cons, ih fun e => h (by simp [e])]
    simp only [advance, hc, if_false, List.length_cons, Position.mk.injEq, true_and]
    omega

/-- Behind a line feed the column counts from it. -/
theorem after_append_newline (p : Position) (s : List Char) {t : List Char} (h : '\n' ∉ t) :
    p.after (s ++ '\n' :: t) = ⟨p.line + s.count '\n' + 1, t.length + 1⟩ := by
  rw [after_append, after_cons, after_eq_of_not_mem h, ← line_after]
  simp [advance, Nat.add_comm]

end Position

end ServiceScaffold.Schema

/-!
# Sets of characters as lists of code point ranges

A property of characters that no short rule describes is kept as the list of the closed ranges
of code points that have it, in ascending order.
-/
namespace ServiceScaffold.Text

abbrev Ranges := List (Nat × Nat)

namespace Ranges

def has (rs : Ranges) (c : Char) : Bool :=
  rs.any fun r => r.1 ≤ c.toNat && c.toNat ≤ r.2

theorem has_iff {rs : Ranges} {c : Char} :
    rs.has c = true ↔ ∃ r ∈ rs, r.1 ≤ c.toNat ∧ c.toNat ≤ r.2 := by
  simp [has]

end Ranges

/-! ## ASCII -/

/-- What holds of the first 128 characters holds of every character of ASCII. -/
theorem of_ascii {P : Char → Prop} (h : ∀ n < 128, P (Char.ofNat n)) (c : Char)
    (hc : c.toNat < 128) : P c := by
  rw [← Char.ofNat_toNat c]
  exact h _ hc

theorem isAlpha_bounds {c : Char} (h : c.isAlpha = true) :
    65 ≤ c.toNat ∧ c.toNat ≤ 90 ∨ 97 ≤ c.toNat ∧ c.toNat ≤ 122 := by
  rcases (Bool.or_eq_true c.isUpper c.isLower).mp h with h | h
  · exact .inl (of_decide_eq_true h)
  · have h := (Bool.and_eq_true _ _).mp h
    exact .inr ⟨of_decide_eq_true h.1, of_decide_eq_true h.2⟩

theorem isDigit_bounds {c : Char} (h : c.isDigit = true) : 48 ≤ c.toNat ∧ c.toNat ≤ 57 := by
  have h := (Bool.and_eq_true _ _).mp h
  exact ⟨of_decide_eq_true h.1, of_decide_eq_true h.2⟩

end ServiceScaffold.Text

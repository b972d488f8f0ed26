import Mathlib.Data.Nat.Digits.Defs
import Mathlib.Tactic.Ring
import ServiceScaffold.Proofs.Schema.Blame
import ServiceScaffold.Text.Segment

/-!
# Integer literals as field numbers

The language writes an integer in decimal digits without a leading zero, in octal digits behind a
zero, or in hexadecimal digits behind a mark (`Literal`). What a field number is read from
(`Reading`) goes beyond that: a plus sign, single underscores, a mark of octal digits and digits of
other scripts. It also falls short of it, since no more than `decimalLimit` decimal digits are read.
Apart from these texts a field number means what its literal says (`means_literal_iff`).
-/
namespace ServiceScaffold.Schema.FieldNumber
open Text

/-! ## Rows of digits -/

/-- The digits of the language, each at the place of its value. -/
def hexDigits : List Char :=
  ['0', '1', '2', '3', '4', '5', '6', '7', '8', '9', 'a', 'b', 'c', 'd', 'e', 'f']

/-- A character that is no digit has the value 16. -/
def hexValue (c : Char) : Nat := hexDigits.idxOf c.toLower

/-- The value of a digit of any script. -/
def scriptValue (c : Char) : Nat := (digitValue? c).getD (hexValue c)

/-- What a row of digits stands for, the first one being the most significant. -/
def rowValue (value : Char → Nat) (base : Nat) (cs : List Char) : Nat :=
  Nat.ofDigits base (cs.map value).reverse

structure Row (value : Char → Nat) (base : Nat) (cs : List Char) (n : Nat) : Prop where
  ne_nil : cs ≠ []
  below : ∀ c ∈ cs, value c < base
  eq : n = rowValue value base cs

theorem rowValue_cons (value : Char → Nat) (base : Nat) (c : Char) (cs : List Char) :
    rowValue value base (c :: cs) = rowValue value base cs + base ^ cs.length * value c := by
  rw [rowValue, List.map_cons, Nat.ofDigits_reverse_cons, List.length_map, rowValue]

theorem rowValue_append (value : Char → Nat) (base : Nat) (cs ds : List Char) :
    rowValue value base (cs ++ ds) =
      rowValue value base ds + base ^ ds.length * rowValue value base cs := by
  rw [rowValue, List.map_append, List.reverse_append, Nat.ofDigits_append, List.length_reverse,
    List.length_map, rowValue, rowValue]

theorem rowValue_congr {value value' : Char → Nat} {base : Nat} {cs : List Char}
    (h : ∀ c ∈ cs, value c = value' c) : rowValue value base cs = rowValue value' base cs := by
  rw [rowValue, rowValue, List.map_congr_left h]

theorem Row.congr {value value' : Char → Nat} {base n : Nat} {cs : List Char}
    (h : Row value base cs n) (hv : ∀ c ∈ cs, value c = value' c) : Row value' base cs n where
  ne_nil := h.ne_nil
  below c hc := hv c hc ▸ h.below c hc
  eq := h.eq.trans (rowValue_congr hv)

/-! ## Values of characters -/

theorem hexValue_of_not_ascii {c : Char} (h : 128 ≤ c.toNat) : hexValue c = 16 := by
  have hlow : c.toLower = c := by
    refine dif_neg ?_
    intro hc
    have : c.toNat ≤ 90 := hc.2
    omega
  have hascii : hexDigits.all (·.toNat < 128) = true := by decide
  rw [hexValue, hlow]
  refine List.idxOf_eq_length ?_
  intro hm
  have := of_decide_eq_true (List.all_eq_true.1 hascii c hm)
  omega

theorem letterValue?_of_not_ascii {c : Char} (h : 128 ≤ c.toNat) : letterValue? c = none := by
  have hle : ∀ d : Char, d.toNat < 128 → (decide (c ≤ d)) = false := by
    intro d hd
    refine decide_eq_false ?_
    intro hc
    have : c.toNat ≤ d.toNat := hc
    omega
  rw [letterValue?, hle 'f' (by decide), hle 'F' (by decide)]
  simp

theorem values_of_ascii : ∀ c : Char, c.toNat < 128 →
    scriptValue c = hexValue c ∧
      (digitValue? c).or (letterValue? c) =
        if hexValue c < 16 then some (hexValue c) else none :=
  of_ascii (by decide +kernel)

theorem digitIn?_eq {base : Nat} (hb : base ≤ 16) (c : Char) :
    digitIn? base c = if scriptValue c < base then some (scriptValue c) else none := by
  have hvalue : (digitValue? c).or (letterValue? c) =
      if scriptValue c < 16 then some (scriptValue c) else none := by
    by_cases h : c.toNat < 128
    · rw [(values_of_ascii c h).1, (values_of_ascii c h).2]
    · rw [letterValue?_of_not_ascii (by omega), Option.or_none, scriptValue,
        hexValue_of_not_ascii (by omega)]
      cases hd : digitValue? c with
      | none => rfl
      | some d =>
        have := digitValue?_lt hd
        exact (if_pos (by simp; omega)).symm
  rw [digitIn?, hvalue]
  split_ifs with h16 h h
  · exact Option.filter_some_pos (decide_eq_true h)
  · exact Option.filter_some_neg (by simpa using h)
  · omega
  · rfl

theorem scriptValue_underscore : scriptValue '_' = 16 := by decide +kernel

/-! ## Groups of digits -/

/-- Groups of digits of any script, with an underscore between one and the next. -/
def Grouped (base : Nat) (cs : List Char) (n : Nat) : Prop :=
  ∃ groups : List (List Char), (∀ g ∈ groups, g ≠ []) ∧ cs = List.intercalate ['_'] groups ∧
    Row scriptValue base groups.flatten n

theorem ne_underscore_of_below {base : Nat} (hb : base ≤ 16) {c : Char}
    (h : scriptValue c < base) : c ≠ '_' := by
  rintro rfl
  rw [scriptValue_underscore] at h
  omega

/-- A row of digits is read whatever stands behind it. -/
theorem digitsFrom?_append {base : Nat} (hb : base ≤ 16) {cs : List Char}
    (h : ∀ c ∈ cs, scriptValue c < base) (acc : Nat) (afterDigit : Bool) (rest : List Char) :
    digitsFrom? base acc afterDigit (cs ++ rest) =
      digitsFrom? base (acc * base ^ cs.length + rowValue scriptValue base cs)
        (afterDigit || !cs.isEmpty) rest := by
  induction cs generalizing acc afterDigit with
  | nil => simp [rowValue]
  | cons c cs ih =>
    obtain ⟨hc, hcs⟩ := List.forall_mem_cons.1 h
    rw [List.cons_append, digitsFrom?, if_neg (ne_underscore_of_below hb hc), digitIn?_eq hb,
      if_pos hc]
    show digitsFrom? base (acc * base + scriptValue c) true (cs ++ rest) = _
    have hacc : (acc * base + scriptValue c) * base ^ cs.length + rowValue scriptValue base cs =
        acc * base ^ (c :: cs).length + rowValue scriptValue base (c :: cs) := by
      rw [rowValue_cons, List.length_cons]
      ring
    rw [ih hcs, hacc]
    simp

theorem digitsFrom?_intercalate {base : Nat} (hb : base ≤ 16) {groups : List (List Char)}
    (hg : ∀ g ∈ groups, g ≠ []) (hne : groups ≠ [])
    (hd : ∀ c ∈ groups.flatten, scriptValue c < base) (acc : Nat) :
    digitsFrom? base acc false (List.intercalate ['_'] groups) =
      some (acc * base ^ groups.flatten.length + rowValue scriptValue base groups.flatten) := by
  induction groups generalizing acc with
  | nil => exact absurd rfl hne
  | cons g groups ih =>
    obtain ⟨hg0, hgs⟩ := List.forall_mem_cons.1 hg
    rw [List.flatten_cons, List.forall_mem_append] at hd
    have hend : (false || !g.isEmpty) = true := by simpa using hg0
    cases groups with
    | nil =>
      have := digitsFrom?_append hb hd.1 acc false []
      rw [hend, List.append_nil] at this
      rw [List.intercalate_singleton, this]
      simp [digitsFrom?]
    | cons g' groups =>
      -- The underscore stands behind a digit, and the next group is read like a first one.
      rw [List.intercalate_cons_cons, List.append_assoc, digitsFrom?_append hb hd.1, hend,
        List.singleton_append, digitsFrom?, if_pos rfl, if_pos rfl,
        ih hgs (List.cons_ne_nil _ _) hd.2, List.flatten_cons (l := g), rowValue_append,
        List.length_append]
      congr 1
      ring

/-- Nothing but groups of digits is read; the first one may be empty behind a digit. -/
theorem groups_of_digitsFrom? {base : Nat} (hb : base ≤ 16) {cs : List Char} {acc n : Nat}
    {afterDigit : Bool} (h : digitsFrom? base acc afterDigit cs = some n) :
    ∃ g groups, (afterDigit = false → g ≠ []) ∧ (∀ g' ∈ groups, g' ≠ []) ∧
      cs = List.intercalate ['_'] (g :: groups) ∧
      ∀ c ∈ g ++ groups.flatten, scriptValue c < base := by
  induction cs generalizing acc afterDigit with
  | nil =>
    cases afterDigit with
    | false => cases h
    | true => exact ⟨[], [], nofun, nofun, rfl, nofun⟩
  | cons c cs ih =>
    rw [digitsFrom?] at h
    split at h
    · next hc =>
      subst hc
      split at h
      · next hafter =>
        obtain ⟨g, groups, hg, hgs, rfl, hd⟩ := ih h
        refine ⟨[], g :: groups, by simp [hafter], ?_, ?_, ?_⟩
        · exact List.forall_mem_cons.2 ⟨hg rfl, hgs⟩
        · rw [List.intercalate_cons_cons]
          rfl
        · simpa using hd
      · cases h
    · rw [digitIn?_eq hb] at h
      by_cases hc : scriptValue c < base
      · rw [if_pos hc] at h
        obtain ⟨g, groups, -, hgs, rfl, hd⟩ := ih h
        refine ⟨c :: g, groups, fun _ => List.cons_ne_nil _ _, hgs, ?_, ?_⟩
        · cases groups <;> simp [List.intercalate_cons_cons]
        · exact List.forall_mem_cons.2 ⟨hc, hd⟩
      · rw [if_neg hc] at h
        cases h

theorem digits?_eq_some {base : Nat} (hb : base ≤ 16) {cs : List Char} {n : Nat} :
    digits? base cs = some n ↔ Grouped base cs n := by
  have read {groups : List (List Char)} (hg : ∀ g ∈ groups, g ≠ []) (hne : groups ≠ [])
      (hd : ∀ c ∈ groups.flatten, scriptValue c < base) :
      digits? base (List.intercalate ['_'] groups) =
        some (rowValue scriptValue base groups.flatten) := by
    rw [digits?, digitsFrom?_intercalate hb hg hne hd, Nat.zero_mul, Nat.zero_add]
  constructor
  · intro h
    obtain ⟨g, groups, hg, hgs, rfl, hd⟩ := groups_of_digitsFrom? hb h
    have hall : ∀ g' ∈ g :: groups, g' ≠ [] := List.forall_mem_cons.2 ⟨hg rfl, hgs⟩
    rw [read hall (List.cons_ne_nil _ _) hd, Option.some.injEq] at h
    exact ⟨g :: groups, hall, rfl, by simp [hg rfl], hd, h.symm⟩
  · rintro ⟨groups, hg, rfl, hrow⟩
    rw [read hg ?_ hrow.below, hrow.eq]
    rintro rfl
    exact hrow.ne_nil rfl

namespace Grouped

variable {base n : Nat} {cs : List Char}

/-- Without its underscores, it is a row. -/
theorem row (hb : base ≤ 16) (h : Grouped base cs n) :
    Row scriptValue base (cs.filter (· ≠ '_')) n := by
  obtain ⟨groups, -, rfl, hrow⟩ := h
  have hself : groups.flatten.filter (· ≠ '_') = groups.flatten :=
    List.filter_eq_self.2 fun c hc => decide_eq_true (ne_underscore_of_below hb (hrow.below c hc))
  rwa [filter_intercalate, hself]

theorem of_row (h : Row scriptValue base cs n) : Grouped base cs n :=
  ⟨[cs], by simpa using h.ne_nil, by simp, by simpa using h⟩

theorem below_of_mem (hb : base ≤ 16) (h : Grouped base cs n) {c : Char} (hc : c ∈ cs)
    (hu : c ≠ '_') : scriptValue c < base :=
  (h.row hb).below c (List.mem_filter.2 ⟨hc, decide_eq_true hu⟩)

theorem head_ne_underscore (hb : base ≤ 16) (h : Grouped base ('_' :: cs) n) : False := by
  obtain ⟨groups, hg, hcs, hrow⟩ := h
  match groups with
  | [] => exact absurd hcs (List.cons_ne_nil _ _)
  | [] :: _ => exact absurd rfl (hg [] List.mem_cons_self)
  | (c :: g) :: groups =>
    have hc : '_' = c := by
      cases groups with
      | nil => exact (List.cons.inj hcs).1
      | cons => exact (List.cons.inj (hcs.trans List.intercalate_cons_cons)).1
    exact ne_underscore_of_below hb (hrow.below c (by simp)) hc.symm

end Grouped

/-! ## What is read -/

/-- The marks of a base that may stand behind a zero. -/
def marks : List (Char × Nat) := [('x', 16), ('X', 16), ('o', 8), ('O', 8)]

/-- The texts that a positive field number is read from, with the number. -/
inductive Reading : List Char → Nat → Prop
  | plain {cs n} : (cs.head? = some '0' → cs.length = 1) →
      (cs.filter (· ≠ '_')).length ≤ decimalLimit → Grouped 10 cs n → Reading cs n
  | plus {cs n} : (cs.filter (· ≠ '_')).length ≤ decimalLimit → Grouped 10 cs n →
      Reading ('+' :: cs) n
  | octal {c cs n} : Grouped 8 ('0' :: c :: cs) n → Reading ('0' :: c :: cs) n
  | marked {mark base gap cs n} : (mark, base) ∈ marks → gap = [] ∨ gap = ['_'] →
      Grouped base cs n → Reading ('0' :: mark :: (gap ++ cs)) n

theorem decimal?_eq_some {cs : List Char} {n : Nat} :
    decimal? cs = some n ↔ (cs.filter (· ≠ '_')).length ≤ decimalLimit ∧ Grouped 10 cs n := by
  rw [decimal?, Option.ite_none_right_eq_some, digits?_eq_some (by decide)]

theorem markedDigits?_eq_some {base : Nat} (hb : base ≤ 16) {cs : List Char} {n : Nat} :
    markedDigits? base cs = some n ↔
      ∃ gap ds, (gap = [] ∨ gap = ['_']) ∧ gap ++ ds = cs ∧ Grouped base ds n := by
  unfold markedDigits?
  split
  · next cs =>
    rw [digits?_eq_some hb]
    constructor
    · intro h
      exact ⟨['_'], cs, .inr rfl, rfl, h⟩
    · rintro ⟨gap, ds, rfl | rfl, hcs, h⟩
      · rw [List.nil_append] at hcs
        subst hcs
        exact (h.head_ne_underscore hb).elim
      · cases hcs
        exact h
  · next hcs =>
    rw [digits?_eq_some hb]
    constructor
    · intro h
      exact ⟨[], cs, .inl rfl, rfl, h⟩
    · rintro ⟨gap, ds, rfl | rfl, rfl, h⟩
      · exact h
      · exact absurd rfl (hcs ds)

theorem map_ofNat_eq_some {o : Option Nat} {n : Nat} :
    o.map Int.ofNat = some (n : Int) ↔ o = some n := by
  cases o <;> simp

/-- Signs and marks, which no group of digits holds. -/
def signs : List Char := '+' :: '-' :: marks.map Prod.fst

theorem signs_apart {c : Char} (h : c ∈ signs) : c ≠ '_' ∧ scriptValue c = 16 := by
  have all : signs.all (fun c => c ≠ '_' ∧ scriptValue c = 16) = true := by decide +kernel
  exact of_decide_eq_true (List.all_eq_true.1 all c h)

theorem Grouped.not_mem {base n : Nat} (hb : base ≤ 16) {cs : List Char} (h : Grouped base cs n)
    {c : Char} (hs : c ∈ signs) : c ∉ cs := by
  intro hc
  obtain ⟨hu, hv⟩ := signs_apart hs
  have := h.below_of_mem hb hc hu
  omega

theorem base_le_of_mark {mark : Char} {base : Nat} (hm : (mark, base) ∈ marks) : base ≤ 16 := by
  have : ∀ m ∈ marks, m.2 ≤ 16 := by decide
  exact this _ hm

theorem mem_signs_of_mark {mark : Char} {base : Nat} (hm : (mark, base) ∈ marks) :
    mark ∈ signs :=
  List.mem_cons_of_mem _ (List.mem_cons_of_mem _ (List.mem_map_of_mem hm))

theorem value?_marked {mark : Char} {base : Nat} (hm : (mark, base) ∈ marks) (cs : List Char) :
    value? ('0' :: mark :: cs) = (markedDigits? base cs).map Int.ofNat := by
  simp only [marks, List.mem_cons, List.not_mem_nil, or_false, Prod.mk.injEq] at hm
  obtain ⟨rfl, rfl⟩ | ⟨rfl, rfl⟩ | ⟨rfl, rfl⟩ | ⟨rfl, rfl⟩ := hm <;> rfl

theorem value?_octal {c : Char} (hc : ∀ base, (c, base) ∉ marks) (cs : List Char) :
    value? ('0' :: c :: cs) = (digits? 8 ('0' :: c :: cs)).map Int.ofNat := by
  have hne : ¬ (c = 'x' ∨ c = 'X') ∧ ¬ (c = 'o' ∨ c = 'O') := by
    constructor
    · rintro (rfl | rfl) <;> exact hc 16 (by decide)
    · rintro (rfl | rfl) <;> exact hc 8 (by decide)
  rw [value?, if_neg (by simpa using hne.1), if_neg (by simpa using hne.2)]

theorem value?_eq_some {cs : List Char} {n : Nat} (hn : 0 < n) :
    value? cs = some (n : Int) ↔ Reading cs n := by
  constructor
  · intro h
    unfold value? at h
    split at h
    · next c cs =>
      replace h : value? ('0' :: c :: cs) = some (n : Int) := h
      by_cases hm : ∃ base, (c, base) ∈ marks
      · obtain ⟨base, hm⟩ := hm
        rw [value?_marked hm, map_ofNat_eq_some, markedDigits?_eq_some (base_le_of_mark hm)] at h
        obtain ⟨gap, ds, hgap, rfl, hd⟩ := h
        exact .marked hm hgap hd
      · rw [value?_octal (not_exists.1 hm), map_ofNat_eq_some, digits?_eq_some (by decide)] at h
        exact .octal h
    · next cs =>
      obtain ⟨hlen, hd⟩ := decimal?_eq_some.1 (map_ofNat_eq_some.1 h)
      exact .plus hlen hd
    · next cs =>
      -- Behind a minus sign no number is positive.
      cases hd : decimal? cs with
      | none => simp [hd] at h
      | some m =>
        have : -(m : Int) = n := by simpa [hd] using h
        omega
    · next hzero _ _ =>
      obtain ⟨hlen, hd⟩ := decimal?_eq_some.1 (map_ofNat_eq_some.1 h)
      refine .plain (fun hhead => ?_) hlen hd
      match cs with
      | [c] => rfl
      | c :: d :: cs =>
        cases hhead
        exact absurd rfl (hzero d cs)
  · intro h
    cases h with
    | plain hhead hlen hd =>
      unfold value?
      split
      · exact absurd (hhead rfl) (by simp)
      · exact absurd List.mem_cons_self (hd.not_mem (by decide) (c := '+') (by decide))
      · exact absurd List.mem_cons_self (hd.not_mem (by decide) (c := '-') (by decide))
      · exact map_ofNat_eq_some.2 (decimal?_eq_some.2 ⟨hlen, hd⟩)
    | plus hlen hd => exact map_ofNat_eq_some.2 (decimal?_eq_some.2 ⟨hlen, hd⟩)
    | @octal c cs _ hd =>
      have hc : ∀ base, (c, base) ∉ marks := by
        intro base hm
        exact hd.not_mem (by decide) (mem_signs_of_mark hm) (by simp)
      rw [value?_octal hc, map_ofNat_eq_some, digits?_eq_some (by decide)]
      exact hd
    | @marked mark base gap ds _ hm hgap hd =>
      rw [value?_marked hm, map_ofNat_eq_some, markedDigits?_eq_some (base_le_of_mark hm)]
      exact ⟨gap, ds, hgap, rfl, hd⟩

/-! ## Literals -/

/-- The integer literals of the language, with their values. -/
inductive Literal : List Char → Nat → Prop
  | decimal {c cs n} : c ≠ '0' → Row hexValue 10 (c :: cs) n → Literal (c :: cs) n
  | octal {cs n} : Row hexValue 8 cs n → Literal ('0' :: cs) n
  | hexadecimal {mark cs n} : mark = 'x' ∨ mark = 'X' → Row hexValue 16 cs n →
      Literal ('0' :: mark :: cs) n

/-- What no integer literal holds, although it may be read. -/
def Foreign (c : Char) : Prop :=
  c ∈ ['+', '_', 'o', 'O'] ∨ 128 ≤ c.toNat

theorem foreign_sign : Foreign '+' ∧ Foreign '_' ∧ Foreign 'o' ∧ Foreign 'O' := by
  simp [Foreign]

theorem scriptValue_eq {c : Char} (h : ¬ Foreign c) : scriptValue c = hexValue c := by
  have : c.toNat < 128 := Nat.lt_of_not_ge fun hc => h (.inr hc)
  exact (values_of_ascii c this).1

theorem not_foreign_of_below {base : Nat} (hb : base ≤ 16) {c : Char} (h : hexValue c < base) :
    ¬ Foreign c := by
  rintro (hc | hc)
  · have all : ['+', '_', 'o', 'O'].all (hexValue · = 16) = true := by decide +kernel
    have := of_decide_eq_true (List.all_eq_true.1 all c hc)
    omega
  · have := hexValue_of_not_ascii hc
    omega

theorem Row.not_foreign {base n : Nat} (hb : base ≤ 16) {cs : List Char}
    (h : Row hexValue base cs n) : ∀ c ∈ cs, ¬ Foreign c :=
  fun c hc => not_foreign_of_below hb (h.below c hc)

theorem Literal.not_foreign {cs : List Char} {n : Nat} (h : Literal cs n) :
    ∀ c ∈ cs, ¬ Foreign c := by
  have hzero : ¬ Foreign '0' := by simp [Foreign]
  cases h with
  | decimal _ hrow => exact hrow.not_foreign (by decide)
  | octal hrow => exact List.forall_mem_cons.2 ⟨hzero, hrow.not_foreign (by decide)⟩
  | hexadecimal hmark hrow =>
    refine List.forall_mem_cons.2 ⟨hzero, List.forall_mem_cons.2 ⟨?_, hrow.not_foreign le_rfl⟩⟩
    rcases hmark with rfl | rfl <;> simp [Foreign]

theorem filter_of_not_foreign {cs : List Char} (hf : ∀ c ∈ cs, ¬ Foreign c) :
    cs.filter (· ≠ '_') = cs := by
  refine List.filter_eq_self.2 fun c hc => decide_eq_true ?_
  rintro rfl
  exact hf '_' hc foreign_sign.2.1

/-- Without foreign characters, the groups of digits are one row. -/
theorem Grouped.row_of_not_foreign {base n : Nat} (hb : base ≤ 16) {cs : List Char}
    (h : Grouped base cs n) (hf : ∀ c ∈ cs, ¬ Foreign c) : Row hexValue base cs n := by
  have hrow := h.row hb
  rw [filter_of_not_foreign hf] at hrow
  exact hrow.congr fun c hc => scriptValue_eq (hf c hc)

theorem Row.grouped {base n : Nat} (hb : base ≤ 16) {cs : List Char}
    (h : Row hexValue base cs n) : Grouped base cs n :=
  .of_row (h.congr fun c hc => (scriptValue_eq (h.not_foreign hb c hc)).symm)

theorem hexValue_zero : hexValue '0' = 0 := rfl

theorem Row.eq_zero {base n : Nat} (h : Row hexValue base ['0'] n) : n = 0 := by
  rw [h.eq, rowValue_cons, hexValue_zero]
  rfl

/-- A leading zero adds nothing. -/
theorem row_zero_cons {base n : Nat} (hb : 0 < base) {cs : List Char} (hne : cs ≠ []) :
    Row hexValue base ('0' :: cs) n ↔ Row hexValue base cs n := by
  have hval : rowValue hexValue base ('0' :: cs) = rowValue hexValue base cs := by
    rw [rowValue_cons, hexValue_zero, Nat.mul_zero, Nat.add_zero]
  constructor
  · intro h
    exact ⟨hne, fun c hc => h.below c (List.mem_cons_of_mem _ hc), h.eq.trans hval⟩
  · intro h
    refine ⟨List.cons_ne_nil _ _, List.forall_mem_cons.2 ⟨?_, h.below⟩, h.eq.trans hval.symm⟩
    rwa [hexValue_zero]

theorem hexadecimal_of_mark {mark : Char} {base : Nat} (hm : (mark, base) ∈ marks)
    (hf : ¬ Foreign mark) : (mark = 'x' ∨ mark = 'X') ∧ base = 16 := by
  simp only [marks, List.mem_cons, List.not_mem_nil, or_false, Prod.mk.injEq] at hm
  obtain ⟨rfl, rfl⟩ | ⟨rfl, rfl⟩ | ⟨rfl, rfl⟩ | ⟨rfl, rfl⟩ := hm
  · exact ⟨.inl rfl, rfl⟩
  · exact ⟨.inr rfl, rfl⟩
  · exact absurd foreign_sign.2.2.1 hf
  · exact absurd foreign_sign.2.2.2 hf

/-- A positive number that is read from characters of the language is read from a literal. -/
theorem Reading.literal {cs : List Char} {n : Nat} (h : Reading cs n) (hn : 0 < n)
    (hf : ∀ c ∈ cs, ¬ Foreign c) : Literal cs n := by
  cases h with
  | plain hhead _ hd =>
    have hrow := hd.row_of_not_foreign (by decide) hf
    match cs with
    | [] => exact absurd rfl hrow.ne_nil
    | c :: cs =>
      refine .decimal ?_ hrow
      rintro rfl
      obtain rfl : cs = [] := List.length_eq_zero_iff.1 (Nat.succ.inj (hhead rfl))
      exact absurd hrow.eq_zero (Nat.ne_of_gt hn)
  | plus => exact absurd foreign_sign.1 (hf '+' List.mem_cons_self)
  | octal hd =>
    have hrow := hd.row_of_not_foreign (by decide) hf
    exact .octal ((row_zero_cons (by decide) (List.cons_ne_nil _ _)).1 hrow)
  | @marked mark base gap ds _ hm hgap hd =>
    simp only [List.forall_mem_cons, List.forall_mem_append] at hf
    obtain ⟨-, hmark, hgapf, hds⟩ := hf
    have hnil : gap = [] := by
      refine hgap.resolve_right ?_
      rintro rfl
      exact hgapf '_' List.mem_cons_self foreign_sign.2.1
    obtain ⟨hx, rfl⟩ := hexadecimal_of_mark hm hmark
    subst hnil
    exact .hexadecimal hx (hd.row_of_not_foreign le_rfl hds)

/-- A decimal literal with more digits than are read. -/
def Overlong (cs : List Char) : Prop :=
  decimalLimit < cs.length ∧ cs.head? ≠ some '0' ∧ ∃ n, Row hexValue 10 cs n

theorem Literal.reading {cs : List Char} {n : Nat} (h : Literal cs n) (ho : ¬ Overlong cs) :
    Reading cs n := by
  cases h with
  | @decimal c cs _ hc hrow =>
    refine .plain ?_ ?_ (hrow.grouped (by decide))
    · intro hhead
      exact absurd (Option.some.inj hhead) hc
    · refine Nat.le_trans (List.length_filter_le _ _) (Nat.le_of_not_lt fun hlen => ho ?_)
      exact ⟨hlen, fun hhead => hc (Option.some.inj hhead), n, hrow⟩
  | @octal cs _ hrow =>
    match cs with
    | [] => exact absurd rfl hrow.ne_nil
    | c :: cs =>
      refine .octal (Row.grouped (by decide) ?_)
      exact (row_zero_cons (by decide) (List.cons_ne_nil _ _)).2 hrow
  | @hexadecimal mark cs _ hmark hrow =>
    show Reading ('0' :: mark :: ([] ++ cs)) n
    refine .marked ?_ (.inl rfl) (hrow.grouped le_rfl)
    rcases hmark with rfl | rfl <;> decide

/-! ## Field numbers -/

/-- The lexeme is read as the number. -/
def Yields (l : Lexeme) (n : Nat) : Prop :=
  ∀ rest, Parser.fieldNumber.run (l :: rest) = .ok ((n : Int), rest)

/-- The lexeme is blamed. -/
def Refused (l : Lexeme) : Prop :=
  ∃ cause : Cause, cause.Names l ∧
    ∀ rest, Parser.fieldNumber.run (l :: rest) = .error ⟨cause, (l :: rest).length⟩

/-- A lexeme with this text yields a number where that is the value of the text and positive, and
is blamed where the text has no positive value. -/
structure Means (value : List Char → Nat → Prop) (text : String) : Prop where
  yields_iff : ∀ n, Yields ⟨.number, text⟩ n ↔ value text.toList n ∧ 0 < n
  refused : (∀ n, 0 < n → ¬ value text.toList n) → Refused ⟨.number, text⟩

theorem Yields.unique {l : Lexeme} {m n : Nat} (hm : Yields l m) (hn : Yields l n) : m = n := by
  have h := (hm []).symm.trans (hn [])
  injection h with h
  injection h with h
  omega

theorem Yields.not_refused {l : Lexeme} {n : Nat} (h : Yields l n) : ¬ Refused l := by
  rintro ⟨cause, -, he⟩
  exact absurd ((h []).symm.trans (he [])) nofun

theorem yields_of_reading {text : String} {n : Nat} (hn : 0 < n) (h : Reading text.toList n) :
    Yields ⟨.number, text⟩ n := by
  intro rest
  have hpos : (0 : Int) < n := by omega
  simp only [Parser.fieldNumber, if_pos, (value?_eq_some hn).2 h, hpos]

theorem refused_of_no_reading {text : String} (h : ∀ n, 0 < n → ¬ Reading text.toList n) :
    Refused ⟨.number, text⟩ := by
  cases hv : value? text.toList with
  | none =>
    refine ⟨.invalidNumber text, ⟨rfl, rfl⟩, fun rest => ?_⟩
    simp only [Parser.fieldNumber, if_pos, hv]
  | some m =>
    have hm : ¬ 0 < m := by
      intro hm
      refine h m.toNat (by omega) ((value?_eq_some (by omega)).1 ?_)
      rw [hv, Int.toNat_of_nonneg (by omega)]
    refine ⟨.nonPositiveNumber text, ⟨rfl, rfl⟩, fun rest => ?_⟩
    simp only [Parser.fieldNumber, if_pos, hv, if_neg hm]

theorem means_reading (text : String) : Means Reading text where
  yields_iff n := by
    constructor
    · intro h
      by_cases hr : ∃ m, 0 < m ∧ Reading text.toList m
      · obtain ⟨m, hm, hr⟩ := hr
        cases h.unique (yields_of_reading hm hr)
        exact ⟨hr, hm⟩
      · exact absurd (refused_of_no_reading fun m hm hv => hr ⟨m, hm, hv⟩) h.not_refused
    · intro ⟨hr, hn⟩
      exact yields_of_reading hn hr
  refused := refused_of_no_reading

/-- What a field number means is settled by the positive values of the text. -/
theorem means_iff {value : List Char → Nat → Prop} {text : String} :
    Means value text ↔ ∀ n, 0 < n → (Reading text.toList n ↔ value text.toList n) := by
  have hread := means_reading text
  constructor
  · intro h n hn
    have := (hread.yields_iff n).symm.trans (h.yields_iff n)
    simpa only [hn, and_true] using this
  · intro h
    constructor
    · intro n
      exact (hread.yields_iff n).trans (and_congr_left (h n))
    · intro hv
      exact hread.refused fun n hn hr => hv n hn ((h n hn).1 hr)

/-- The text is read as a positive number although it holds what no literal does. -/
def Tolerated (cs : List Char) : Prop :=
  (∃ n, 0 < n ∧ Reading cs n) ∧ ∃ c ∈ cs, Foreign c

theorem Row.pos {base n : Nat} (hb : 0 < base) {c : Char} {cs : List Char}
    (h : Row hexValue base (c :: cs) n) (hc : hexValue c ≠ 0) : 0 < n := by
  rw [h.eq, rowValue_cons]
  have := Nat.mul_pos (Nat.pow_pos (n := cs.length) hb) (Nat.pos_of_ne_zero hc)
  omega

theorem hexValue_ne_zero {c : Char} (hc : c ≠ '0') : hexValue c ≠ 0 := by
  by_cases h : c.toNat < 128
  · exact of_ascii (P := fun c => c ≠ '0' → hexValue c ≠ 0) (by decide +kernel) c h hc
  · rw [hexValue_of_not_ascii (by omega)]
    exact Nat.succ_ne_zero 15

/-- No overlong literal is read. -/
theorem Overlong.not_reading {cs : List Char} (h : Overlong cs) (n : Nat) : ¬ Reading cs n := by
  obtain ⟨hlong, hhead, m, hrow⟩ := h
  have hf := hrow.not_foreign (by decide)
  intro hr
  cases hr with
  | plain _ hlen _ =>
    rw [filter_of_not_foreign hf] at hlen
    omega
  | plus => exact hf '+' List.mem_cons_self foreign_sign.1
  | octal => exact hhead rfl
  | marked => exact hhead rfl

theorem Overlong.literal {cs : List Char} (h : Overlong cs) : ∃ n, 0 < n ∧ Literal cs n := by
  obtain ⟨-, hhead, n, hrow⟩ := h
  match cs with
  | [] => exact absurd rfl hrow.ne_nil
  | c :: cs =>
    have hc : c ≠ '0' := by
      rintro rfl
      exact hhead rfl
    exact ⟨n, hrow.pos (by decide) (hexValue_ne_zero hc), .decimal hc hrow⟩

/-- The reader of field numbers takes the texts of `Reading` for what they stand for and blames any
other. It takes integer literals for their values, and nothing else for a number, as long as the
text is neither tolerated nor overlong. -/
theorem means_literal_iff (text : String) :
    Means Reading text ∧
      (Means Literal text ↔ ¬ Tolerated text.toList ∧ ¬ Overlong text.toList) := by
  refine ⟨means_reading text, means_iff.trans ⟨fun h => ⟨?_, ?_⟩, fun ⟨ht, ho⟩ n hn => ⟨?_, ?_⟩⟩⟩
  · intro ⟨⟨n, hn, hr⟩, c, hc, hf⟩
    exact ((h n hn).1 hr).not_foreign c hc hf
  · intro ho
    obtain ⟨n, hn, hl⟩ := ho.literal
    exact ho.not_reading n ((h n hn).2 hl)
  · intro hr
    exact hr.literal hn fun c hc hf => ht ⟨⟨n, hn, hr⟩, c, hc, hf⟩
  · intro hl
    exact hl.reading ho

/-- An underscore between two digits is passed over. -/
theorem underscored_number_accepted :
    File.ofText "message M \x7b int32 a = 1_0; \x7d" =
        .ok [.message ⟨"M", [.statement (.field ⟨"int32", "a", 10, false, .bare⟩)]⟩] ∧
      ¬ Means Literal "1_0" := by
  refine ⟨by with_unfolding_all rfl, ?_⟩
  intro h
  have hten : Yields ⟨.number, "1_0"⟩ 10 := fun rest => by with_unfolding_all rfl
  have hl := ((h.yields_iff 10).1 hten).1
  exact hl.not_foreign '_' (by decide) foreign_sign.2.1

end ServiceScaffold.Schema.FieldNumber

import ServiceScaffold.Proofs.Printing.Printer

/-!
# Names, numbers and ranges in print

What a printed schema says in one lexeme or in a short row of them, and that it is read back: the
decimal digits of a field number, the name of a setting, a list of ranges.
-/
namespace ServiceScaffold.Schema.Printing
open Text Lexer Lexical
open Lexeme (ofWord ofDelimiter)

/-! ## Numbers -/

theorem digitIn?_of_isDigit {c : Char} (h : c.isDigit = true) :
    FieldNumber.digitIn? 10 c = some (c.toNat - 48) := by
  have hb := isDigit_bounds h
  have hv : digitValue? c = some (c.toNat - 48) := by
    rw [digitValue?, decimalRanges, List.find?_cons_of_pos (by simp; omega)]
    exact congrArg some (Nat.mod_eq_of_lt (by omega))
  rw [FieldNumber.digitIn?, hv, Option.some_or]
  exact Option.filter_some_pos (decide_eq_true (by omega))

/-- The value of decimal digits, the most significant first. -/
def digitsValue (acc : Nat) (cs : List Char) : Nat :=
  cs.foldl (fun a c => a * 10 + (c.toNat - 48)) acc

theorem digitsFrom?_of_isDigit {cs : List Char} (h : ∀ c ∈ cs, c.isDigit = true) (acc : Nat) :
    FieldNumber.digitsFrom? 10 acc true cs = some (digitsValue acc cs) := by
  induction cs generalizing acc with
  | nil => rfl
  | cons c cs ih =>
    simp only [List.mem_cons, forall_eq_or_imp] at h
    have hu : c ≠ '_' := by
      rintro rfl
      exact absurd h.1 (by decide)
    rw [FieldNumber.digitsFrom?, if_neg hu, digitIn?_of_isDigit h.1]
    exact ih h.2 _

theorem digits?_of_isDigit {cs : List Char} (h : ∀ c ∈ cs, c.isDigit = true) (hne : cs ≠ []) :
    FieldNumber.digits? 10 cs = some (digitsValue 0 cs) := by
  match cs with
  | [] => exact absurd rfl hne
  | c :: cs =>
    simp only [List.mem_cons, forall_eq_or_imp] at h
    have hu : c ≠ '_' := by
      rintro rfl
      exact absurd h.1 (by decide)
    rw [FieldNumber.digits?, FieldNumber.digitsFrom?, if_neg hu, digitIn?_of_isDigit h.1]
    exact digitsFrom?_of_isDigit h.2 _

theorem isDigit_toDigits (n : Nat) : ∀ c ∈ Nat.toDigits 10 n, c.isDigit = true := fun _ h =>
  Nat.isDigit_of_mem_toDigits (by decide) (by decide) h

theorem digitsValue_toDigits (n : Nat) : digitsValue 0 (Nat.toDigits 10 n) = n := by
  induction n using Nat.strongRecOn with
  | ind n ih =>
    by_cases h : n < 10
    · rw [Nat.toDigits_of_lt_base h, digitsValue, List.foldl_cons, List.foldl_nil,
        Nat.toNat_digitChar_of_lt_ten h]
      omega
    · have hq := ih (n / 10) (by omega)
      rw [digitsValue] at hq
      rw [Nat.toDigits_of_base_le (by decide) (by omega), digitsValue, List.foldl_append, hq,
        List.foldl_cons, List.foldl_nil, Nat.toNat_digitChar_of_lt_ten (by omega)]
      omega

theorem head?_toDigits {n : Nat} (h : 0 < n) : (Nat.toDigits 10 n).head? ≠ some '0' := by
  induction n using Nat.strongRecOn with
  | ind n ih =>
    by_cases hn : n < 10
    · rw [Nat.toDigits_of_lt_base hn, List.head?_cons, ne_eq, Option.some.injEq,
        Nat.digitChar_eq_zero]
      omega
    · rw [Nat.toDigits_of_base_le (by decide) (by omega),
        List.head?_append_of_ne_nil _ Nat.toDigits_ne_nil]
      exact ih (n / 10) (by omega) (by omega)

/-- The numeral of a field number stands for it. -/
theorem value?_numeral {n : Int} (h : IsFieldNumber n) :
    FieldNumber.value? (numeral n).text.toList = some n := by
  obtain ⟨hpos, hmax⟩ := h
  have hd := isDigit_toDigits n.toNat
  have hz := head?_toDigits (n := n.toNat) (by omega)
  have hlen : (Nat.toDigits 10 n.toNat).length ≤ 9 := by
    rw [Nat.length_toDigits_le_iff (by decide) (by decide)]
    omega
  have hdec : FieldNumber.decimal? (Nat.toDigits 10 n.toNat) = some n.toNat := by
    have hf := List.length_filter_le (fun c => decide (c ≠ '_')) (Nat.toDigits 10 n.toNat)
    rw [FieldNumber.decimal?, if_pos (by rw [FieldNumber.decimalLimit]; omega),
      digits?_of_isDigit hd Nat.toDigits_ne_nil, digitsValue_toDigits]
  rw [numeral, Nat.toList_repr]
  generalize Nat.toDigits 10 n.toNat = cs at hd hz hdec
  unfold FieldNumber.value?
  split
  · exact absurd rfl hz
  · exact absurd (hd '+' List.mem_cons_self) (by decide)
  · exact absurd (hd '-' List.mem_cons_self) (by decide)
  · rw [hdec, Option.map_some]
    exact congrArg some (Int.toNat_of_nonneg (by omega))

theorem isDigit_of_ascii {c : Char} (h : c.isDigit = true) : Text.isDigit c = true := by
  rw [Text.isDigit, isDecimal_eq_has, Bool.or_eq_true]
  exact .inl (Ranges.has_iff.2 ⟨(0x30, 0x39), List.mem_cons_self, isDigit_bounds h⟩)

theorem isChain_of_isDigit {hex : Bool} {last : Char} {cs : List Char}
    (h : ∀ c ∈ cs, c.isDigit = true) : (last :: cs).IsChain (InNumber hex) := by
  induction cs generalizing last with
  | nil => exact .singleton last
  | cons c cs ih =>
    simp only [List.mem_cons, forall_eq_or_imp] at h
    exact .cons_cons (.inl (isWordPart_of_isDigit (isDigit_of_ascii h.1))) (ih h.2)

theorem isNumeral_repr (n : Nat) : IsNumeral n.repr := by
  have hd := isDigit_toDigits n
  rw [isNumeral_iff, Nat.toList_repr]
  cases hcs : Nat.toDigits 10 n with
  | nil => exact absurd hcs Nat.toDigits_ne_nil
  | cons c cs =>
    rw [hcs] at hd
    simp only [List.mem_cons, forall_eq_or_imp] at hd
    refine ⟨⟨c, cs, rfl, ?_⟩, isChain_of_isDigit hd.2⟩
    rw [startsNumber, isDigit_of_ascii hd.1]
    rfl

/-! ## Names of settings -/

theorem isBreak_of_mem {s : List Char} (h : WordRun s) : ∀ c ∈ s, isBreak c = false := by
  intro c hc
  obtain ⟨front, behind, rfl⟩ := List.append_of_mem hc
  refine Bool.eq_false_iff.2 ?_
  intro hb
  obtain ⟨hw, hu, hd, _⟩ := of_isBreak hb
  rcases h.continues c behind (List.suffix_append _ _) with hc | hc | ⟨hc, _⟩
  · rw [hw] at hc
    cases hc
  · exact absurd hc hu
  · exact absurd hc hd

theorem isWord_append {s t : String} (hs : IsWord s) (ht : IsWord t) : IsWord (s ++ t) := by
  rw [isWord_iff, String.toList_append]
  exact (isWord_iff.1 hs).append (isWord_iff.1 ht).continues

theorem isWord_join {selectors : List String} (h : ∀ s ∈ selectors, IsWord s) {base : String}
    (hb : IsWord base) : IsWord (base ++ String.join selectors) := by
  induction selectors generalizing base with
  | nil => rwa [String.join_nil, String.append_empty]
  | cons s ss ih =>
    simp only [List.mem_cons, forall_eq_or_imp] at h
    rw [String.join_cons, ← String.append_assoc]
    exact ih h.2 (isWord_append hb h.1)

theorem settingParts?_parenthesized {base : String} (h : IsWord base) (behind : String) :
    settingParts? ("(" ++ base ++ ")" ++ behind) = some (base, behind) := by
  have hne : ∀ c ∈ base.toList, decide (c ≠ ')') = true := fun c hc => decide_eq_true <| by
    rintro rfl
    have hb := isBreak_of_mem (isWord_iff.1 h) _ hc
    rw [show isBreak ')' = true from isBreak_delimiter .rparen] at hb
    cases hb
  have hl : ("(" ++ base ++ ")" ++ behind).toList =
      '(' :: (base.toList ++ ')' :: behind.toList) := by
    simp
  unfold settingParts?
  rw [hl]
  simp only [List.takeWhile_append_of_pos hne, List.dropWhile_append_of_pos hne]
  simp

theorem settingParts?_of_isWord {name : String} (h : IsWord name) : settingParts? name = none := by
  obtain ⟨c, cs, he, hs⟩ := (isWord_iff.1 h).starts
  have hc : c ≠ '(' := by
    rintro rfl
    have hb := isBreak_eq_false (.inr hs)
    rw [show isBreak '(' = true from isBreak_delimiter .lparen] at hb
    cases hb
  unfold settingParts?
  rw [he]
  split
  · next h => cases h; exact absurd rfl hc
  · rfl

/-- The name of a setting is a word, or a word in parentheses with nothing or a word that starts
with a dot behind it. -/
theorem isSettingName_iff {name : String} :
    IsSettingName name ↔ IsWord name ∨ ∃ p ∈ settingParts? name, IsWord p.1 ∧
      (p.2 = "" ∨ IsWord p.2 ∧ p.2.toList.head? = some '.') ∧
      name = "(" ++ p.1 ++ ")" ++ p.2 := by
  constructor
  · rintro ⟨base, selectors, hb, hs, rfl | rfl⟩
    · exact .inl (isWord_join (fun s hm => (hs s hm).1) hb)
    · refine .inr ⟨_, settingParts?_parenthesized hb _, hb, ?_, rfl⟩
      cases selectors with
      | nil => exact .inl rfl
      | cons s ss =>
        simp only [List.mem_cons, forall_eq_or_imp] at hs
        refine .inr ⟨?_, ?_⟩
        · rw [String.join_cons]
          exact isWord_join (fun s hm => (hs.2 s hm).1) hs.1.1
        · obtain ⟨cs, hcs⟩ := List.head?_eq_some_iff.1 hs.1.2
          rw [String.join_cons, String.toList_append, hcs]
          rfl
  · rintro (h | ⟨⟨inner, behind⟩, _, hi, rfl | hb, rfl⟩)
    · exact ⟨name, [], h, nofun, .inl (by simp)⟩
    · exact ⟨inner, [], hi, nofun, .inr (by simp)⟩
    · exact ⟨inner, [behind], hi, by simpa using hb, .inr (by simp)⟩

instance (name : String) : Decidable (IsSettingName name) :=
  decidable_of_iff _ isSettingName_iff.symm

theorem settingName_cases {name : String} (h : IsSettingName name) :
    IsWord name ∨ ∃ inner behind, settingParts? name = some (inner, behind) ∧ IsWord inner ∧
      (behind = "" ∨ IsWord behind ∧ behind.toList.head? = some '.') ∧
      name = "(" ++ inner ++ ")" ++ behind := by
  rcases isSettingName_iff.1 h with h | ⟨⟨inner, behind⟩, hp, hparts⟩
  · exact .inl h
  · exact .inr ⟨inner, behind, hp, hparts⟩

/-! ## Ranges -/

theorem intercalate_segments (sep : Char) (s : List Char) :
    List.intercalate [sep] (segments sep s) = s := by
  induction s with
  | nil => rfl
  | cons c cs ih =>
    rw [segments]
    split
    · next h =>
      rw [List.intercalate_cons_of_ne_nil (segments_ne_nil sep cs), ih, h]
      rfl
    · split
      · next h => exact absurd h (segments_ne_nil sep cs)
      · next h =>
        rw [h] at ih
        rw [List.intercalate_cons_cons_left, ih]

theorem spaced_parts (text : String) : Parser.spaced (parts text) = text := by
  have hid : String.toList ∘ String.ofList = id := funext fun _ => String.toList_ofList
  rw [Parser.spaced, parts, ← String.toList_inj, String.toList_intercalate, List.map_map, hid,
    List.map_id]
  exact intercalate_segments ' ' text.toList

theorem text_rangePart {part : String} : (rangePart part).text = part := by
  unfold rangePart
  split
  · rfl
  · split
    · next h => rw [h]; rfl
    · exact Lexeme.text_ofWord part

theorem kind_rangePart_ne (part : String) : (rangePart part).kind ≠ .delimiter .semicolon := by
  unfold rangePart
  split
  · exact nofun
  · split
    · exact nofun
    · exact kind_ofWord_ne rfl

/-! ## Writing down -/

theorem isWord_keyword (k : Keyword) : IsWord k.text := by
  cases k <;> decide

theorem isWritable_mark (k : Keyword) : IsWritable (mark k) := by
  have hw := IsWritable.word (isWord_keyword k)
  rwa [ofWord_keyword rfl] at hw

theorem isWritable_numeral (n : Int) : IsWritable (numeral n) :=
  .numeral (isNumeral_repr n.toNat)

theorem isWritable_settingName {name : String} (h : IsSettingName name) :
    ∀ l ∈ settingName name, IsWritable l := by
  rcases settingName_cases h with h | ⟨inner, behind, hp, hi, hb, _⟩
  · rw [settingName, settingParts?_of_isWord h]
    simpa using IsWritable.word h
  · rw [settingName, hp]
    by_cases he : behind = ""
    · simpa [he] using ⟨.delimiter .lparen, .word hi, .delimiter .rparen⟩
    · have hw := (hb.resolve_left he).1
      simpa [he] using ⟨.delimiter .lparen, .word hi, .delimiter .rparen, .word hw⟩

theorem isWritable_rangePart {part : String} (h : IsNumeral part ∨ IsWord part ∨ part = ",") :
    IsWritable (rangePart part) := by
  unfold rangePart
  split
  · next hn => exact .numeral hn
  · next hn =>
    split
    · exact .delimiter .comma
    · next hc => exact .word ((h.resolve_left hn).resolve_right hc)

end ServiceScaffold.Schema.Printing

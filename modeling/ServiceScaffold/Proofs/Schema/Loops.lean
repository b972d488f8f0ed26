import ServiceScaffold.Schema.Grammar

/-!
# What the loops of the parsers read

Two parsers call themselves: the loop over items and the one over the elements of a message. Each is
told by a relation between the lexemes before it, what it yields and the lexemes behind it, so that
nothing else needs to look into the loops (`itemsFrom_eq_ok`, `elements_run_eq_ok`), and so is the
search for a closing bracket (`closeBrackets?_eq_some`). What is read of a text depends on its lexemes
(`ofText_eq_of_tokens`).
-/
namespace ServiceScaffold.Schema.Parser
open Grammar

variable {α β : Type}

/-! ## Runs -/

theorem run_bind_of_ok {p : Parser α} {f : α → Parser β} {ts rest : List Lexeme} {a : α}
    (h : p.run ts = .ok (a, rest)) : (p >>= f).run ts = (f a).run rest := by
  rw [run_bind, h]

@[simp] theorem look_bind_run (f : List Lexeme → α) (g : α → Parser β) (ts : List Lexeme) :
    (look f >>= g).run ts = (g (f ts)).run ts :=
  rfl

theorem map_run {p : Parser α} (f : α → β) {ts rest : List Lexeme} {a : α}
    (h : p.run ts = .ok (a, rest)) : (f <$> p).run ts = .ok (f a, rest) := by
  rw [← bind_pure_comp, run_bind_of_ok h, run_pure]

/-! ## Brackets -/

/-- Lexemes up to the bracket that closes an open one, with `depth` brackets nested in it to be
closed first. -/
inductive ClosesBracket (opening closing : Kind) : Nat → List Lexeme → Prop
  | last {t} : t.kind ≠ opening → t.kind = closing → ClosesBracket opening closing 0 [t]
  | opens {depth t ts} : t.kind = opening → ClosesBracket opening closing (depth + 1) ts →
      ClosesBracket opening closing depth (t :: ts)
  | closes {depth t ts} : t.kind ≠ opening → t.kind = closing →
      ClosesBracket opening closing depth ts → ClosesBracket opening closing (depth + 1) (t :: ts)
  | other {depth t ts} : t.kind ≠ opening → t.kind ≠ closing →
      ClosesBracket opening closing depth ts → ClosesBracket opening closing depth (t :: ts)

section Brackets

variable {opening closing : Kind} {depth : Nat} {ts taken rest : List Lexeme}

theorem closesBracket_of_closeBrackets?
    (h : closeBrackets? opening closing depth ts = some (taken, rest)) :
    ClosesBracket opening closing depth taken := by
  induction ts generalizing depth taken with
  | nil => cases h
  | cons t ts ih =>
    simp only [closeBrackets?] at h
    split at h
    · next ho =>
      obtain ⟨⟨behind, _⟩, hr, he⟩ := Option.map_eq_some_iff.1 h
      cases he
      exact .opens ho (ih hr)
    · next ho =>
      split at h
      · next hc =>
        cases depth with
        | zero =>
          cases h
          exact .last ho hc
        | succ depth =>
          obtain ⟨⟨behind, _⟩, hr, he⟩ := Option.map_eq_some_iff.1 h
          cases he
          exact .closes ho hc (ih hr)
      · next hc =>
        obtain ⟨⟨behind, _⟩, hr, he⟩ := Option.map_eq_some_iff.1 h
        cases he
        exact .other ho hc (ih hr)

theorem closeBrackets?_of_closesBracket (h : ClosesBracket opening closing depth taken) :
    closeBrackets? opening closing depth (taken ++ rest) = some (taken, rest) := by
  induction h with
  | last ho hc =>
    simp only [List.cons_append, List.nil_append, closeBrackets?, if_neg ho, if_pos hc]
  | opens ho _ ih => simp only [List.cons_append, closeBrackets?, if_pos ho, ih, Option.map_some]
  | closes ho hc _ ih =>
    simp only [List.cons_append, closeBrackets?, if_neg ho, if_pos hc, ih, Option.map_some]
  | other ho hc _ ih =>
    simp only [List.cons_append, closeBrackets?, if_neg ho, if_neg hc, ih, Option.map_some]

theorem closeBrackets?_eq_some :
    closeBrackets? opening closing depth ts = some (taken, rest) ↔
      ClosesBracket opening closing depth taken ∧ ts = taken ++ rest := by
  constructor
  · exact fun h => ⟨closesBracket_of_closeBrackets? h, (closeBrackets?_append h).symm⟩
  · rintro ⟨h, rfl⟩
    exact closeBrackets?_of_closesBracket h

end Brackets

/-! ## Items -/

/-- Items are read up to the end or to where the loop stops. -/
inductive ItemsRead (stop : List Lexeme → Bool) (item : Parser (Option α)) :
    List Lexeme → List α → List Lexeme → Prop
  | done {ts} : (ts.isEmpty || stop ts) = true → ItemsRead stop item ts [] ts
  | item {ts mid rest o as} : stop ts = false → item.run ts = .ok (o, mid) →
      ItemsRead stop item mid as rest → ItemsRead stop item ts (o.toList ++ as) rest

section Items

variable {stop : List Lexeme → Bool} {item : Parser (Option α)} {hc : Consuming item}
  {ts rest : List Lexeme} {as : List α}

theorem itemsRead_of_itemsFrom (h : itemsFrom stop item hc ts = .ok (as, rest)) :
    ItemsRead stop item ts as rest := by
  induction hn : ts.length using Nat.strongRecOn generalizing ts as with
  | ind n ih =>
    rw [itemsFrom] at h
    split at h
    · next hd =>
      cases h
      exact .done hd
    · next hd =>
      rw [Bool.not_eq_true, Bool.or_eq_false_iff] at hd
      split at h
      · cases h
      · next o mid hi =>
        cases hr : itemsFrom stop item hc mid with
        | error e => rw [hr] at h; cases h
        | ok r =>
          rw [hr] at h
          cases h
          exact .item hd.2 hi (ih _ (hn ▸ hc hi) hr rfl)

theorem itemsFrom_of_itemsRead (h : ItemsRead stop item ts as rest) :
    itemsFrom stop item hc ts = .ok (as, rest) := by
  induction h with
  | done hd => rw [itemsFrom, if_pos hd]
  | @item ts mid rest o as hs hi _ ih =>
    have hne : ts.isEmpty = false := by
      cases ts with
      | nil => exact absurd (hc hi) (Nat.not_lt_zero _)
      | cons => rfl
    rw [itemsFrom, if_neg (by simp [hne, hs])]
    split
    · next he => rw [hi] at he; cases he
    · next he =>
      rw [hi] at he
      cases he
      rw [ih]
      rfl

theorem itemsFrom_eq_ok :
    itemsFrom stop item hc ts = .ok (as, rest) ↔ ItemsRead stop item ts as rest :=
  ⟨itemsRead_of_itemsFrom, itemsFrom_of_itemsRead⟩

end Items

/-! ## Elements of a message -/

/-- Elements are read up to the end of the body. A message that opens is read as far as its closing
brace, and the elements behind it then. -/
inductive ElementsRead : List Lexeme → List MessageElement → List Lexeme → Prop
  | done {ts} : atBodyEnd ts = true → ElementsRead ts [] ts
  | blank {ts mid rest es} : entry.run ts = .ok (.blank, mid) → ElementsRead mid es rest →
      ElementsRead ts es rest
  | element {ts mid rest e es} : entry.run ts = .ok (.element e, mid) →
      ElementsRead mid es rest → ElementsRead ts (e :: es) rest
  | opens {ts inside mid after rest name brace inner es} :
      entry.run ts = .ok (.opens name, inside) → ElementsRead inside inner mid →
      (delimiter .rbrace).run mid = .ok (brace, after) → ElementsRead after es rest →
      ElementsRead ts (.message name inner :: es) rest

theorem elementsRead_of_elementsFrom {ts : List Lexeme}
    {r : { r : List MessageElement × List Lexeme // r.2 <:+ ts }}
    (h : elementsFrom ts = .ok r) : ElementsRead ts r.1.1 r.1.2 := by
  induction hn : ts.length using Nat.strongRecOn generalizing ts with
  | ind n ih =>
    rw [elementsFrom] at h
    split at h
    · next hd =>
      cases h
      exact .done hd
    · split at h
      · cases h
      · next rest he =>
        have hl := hn ▸ entry_consuming he
        split at h
        · cases h
        · next hr =>
          cases h
          exact .blank he (ih _ hl hr rfl)
      · next rest he =>
        have hl := hn ▸ entry_consuming he
        split at h
        · cases h
        · next hr =>
          cases h
          exact .element he (ih _ hl hr rfl)
      · next inside he =>
        have hl := hn ▸ entry_consuming he
        split at h
        · cases h
        · next inner mid hmid hi =>
          split at h
          · cases h
          · next after hb =>
            have hla : after.length < n :=
              Nat.lt_trans (delimiter_consuming _ hb) (Nat.lt_of_le_of_lt hmid.length_le hl)
            split at h
            · cases h
            · next hr =>
              cases h
              exact .opens he (ih _ hl hi rfl) hb (ih _ hla hr rfl)

/-- Nothing is read where a body ends. -/
theorem not_atBodyEnd_of_entry {ts rest : List Lexeme} {e : Entry}
    (h : entry.run ts = .ok (e, rest)) : ¬ atBodyEnd ts = true := by
  intro hend
  match ts with
  | [] => cases h
  | t :: ts =>
    have hk : t.kind = .delimiter .rbrace := by simpa [atBodyEnd, Lexeme.is] using hend
    have hz : kindAt (t :: ts) 0 = .delimiter .rbrace := hk
    simp [entry, startsBlock, startsGroup, labelOf?, Kind.isWord, hz, refuse] at h

section Elements

variable {ts mid after rest : List Lexeme} {e : MessageElement} {es : List MessageElement}

theorem elementsFrom_of_blank (he : entry.run ts = .ok (.blank, mid))
    (h : ∃ hs, elementsFrom mid = .ok ⟨(es, rest), hs⟩) :
    ∃ hs, elementsFrom ts = .ok ⟨(es, rest), hs⟩ := by
  obtain ⟨hs, hr⟩ := h
  refine ⟨hs.trans (entry.suffix he), ?_⟩
  rw [elementsFrom, if_neg (not_atBodyEnd_of_entry he)]
  split <;> rename_i hts <;> rw [he] at hts <;> cases hts
  rw [hr]

theorem elementsFrom_of_element (he : entry.run ts = .ok (.element e, mid))
    (h : ∃ hs, elementsFrom mid = .ok ⟨(es, rest), hs⟩) :
    ∃ hs, elementsFrom ts = .ok ⟨(e :: es, rest), hs⟩ := by
  obtain ⟨hs, hr⟩ := h
  refine ⟨hs.trans (entry.suffix he), ?_⟩
  rw [elementsFrom, if_neg (not_atBodyEnd_of_entry he)]
  split <;> rename_i hts <;> rw [he] at hts <;> cases hts
  rw [hr]

theorem elementsFrom_of_opens {inside : List Lexeme} {name brace : String}
    {inner : List MessageElement} (he : entry.run ts = .ok (.opens name, inside))
    (hi : ∃ hs, elementsFrom inside = .ok ⟨(inner, mid), hs⟩)
    (hb : (delimiter .rbrace).run mid = .ok (brace, after))
    (h : ∃ hs, elementsFrom after = .ok ⟨(es, rest), hs⟩) :
    ∃ hs, elementsFrom ts = .ok ⟨(.message name inner :: es, rest), hs⟩ := by
  obtain ⟨hsi, hi⟩ := hi
  obtain ⟨hs, hr⟩ := h
  refine ⟨((hs.trans ((delimiter _).suffix hb)).trans hsi).trans (entry.suffix he), ?_⟩
  rw [elementsFrom, if_neg (not_atBodyEnd_of_entry he)]
  split <;> rename_i hts <;> rw [he] at hts <;> cases hts
  rw [hi]
  dsimp only
  split <;> rename_i hc <;> rw [hb] at hc <;> cases hc
  rw [hr]

theorem elementsFrom_of_elementsRead (h : ElementsRead ts es rest) :
    ∃ hs, elementsFrom ts = .ok ⟨(es, rest), hs⟩ := by
  induction h with
  | done hd =>
    refine ⟨List.suffix_refl _, ?_⟩
    rw [elementsFrom, if_pos hd]
  | blank he _ ih => exact elementsFrom_of_blank he ih
  | element he _ ih => exact elementsFrom_of_element he ih
  | opens he _ hb _ ihInner ih => exact elementsFrom_of_opens he ihInner hb ih

theorem elements_run_eq_ok : elements.run ts = .ok (es, rest) ↔ ElementsRead ts es rest := by
  simp only [elements]
  constructor
  · intro h
    split at h
    · cases h
    · next r hr =>
      have he := Except.ok.inj h
      have hread := elementsRead_of_elementsFrom hr
      rwa [he] at hread
  · intro h
    obtain ⟨hs, hr⟩ := elementsFrom_of_elementsRead h
    rw [hr]

end Elements

end ServiceScaffold.Schema.Parser

/-! ## Texts -/

namespace ServiceScaffold.Schema

/-- Where a text has tokens, they alone decide what is read; their places tell where it goes wrong. -/
theorem ofText_eq_of_tokens {text : String} {t : Tokens} (h : Tokens.ofText text = .ok t) :
    File.ofText text =
      match Grammar.file t.lexemes with
      | .ok f => .ok f
      | .error fault => .error ⟨fault.cause, t.place fault.remaining⟩ := by
  rw [File.ofText, readTokens, h]
  rfl

theorem tokens_of_ofText {text : String} {f : File} (h : File.ofText text = .ok f) :
    ∃ t, Tokens.ofText text = .ok t ∧ Grammar.file t.lexemes = .ok f := by
  cases ht : Tokens.ofText text with
  | error p =>
    rw [File.ofText, readTokens, ht] at h
    cases h
  | ok t =>
    rw [ofText_eq_of_tokens ht] at h
    split at h <;> cases h
    exact ⟨t, rfl, by assumption⟩

end ServiceScaffold.Schema

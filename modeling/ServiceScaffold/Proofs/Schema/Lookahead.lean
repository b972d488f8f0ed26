import ServiceScaffold.Proofs.Schema.Loops

/-!
# How far the parsers look ahead

A parser decides by what lies ahead, and the end of the input counts as a lexeme of a kind of its
own. `Steady least ahead p` says how far this shows: `p` takes at least `least` lexemes, and where it
leaves `ahead` of them it reads the same when more follow. Each way of putting parsers together has
its numbers, and a loop that stops nowhere goes on with what follows (`itemsFrom_append`). That no
fault blames a lexeme before those that were read is carried along.
-/
namespace ServiceScaffold.Schema.Parser
open Grammar

variable {α β : Type} {p : Parser α} {n m k j : Nat}

/-! ## Steady parsers -/

structure Steady (least ahead : Nat) (p : Parser α) : Prop where
  takes : ∀ {ts a rest}, p.run ts = .ok (a, rest) → rest.length + least ≤ ts.length
  stays : ∀ {ts a rest}, p.run ts = .ok (a, rest) → ahead ≤ rest.length →
    ∀ more, p.run (ts ++ more) = .ok (a, rest ++ more)
  blames : ∀ {ts fault}, p.run ts = .error fault → fault.remaining ≤ ts.length

theorem Steady.weaken {n' k' : Nat} (hle : n' ≤ n ∧ k ≤ k') (h : Steady n k p) :
    Steady n' k' p where
  takes hr := Nat.le_trans (Nat.add_le_add_left hle.1 _) (h.takes hr)
  stays hr hl := h.stays hr (Nat.le_trans hle.2 hl)
  blames := h.blames

theorem Steady.pure (a : α) : Steady 0 0 (Pure.pure a : Parser α) where
  takes := by rintro ts b rest ⟨⟩; exact Nat.le_refl _
  stays := by rintro ts b rest ⟨⟩ _ more; rfl
  blames := by rintro ts fault ⟨⟩

/-- Part of what the first parser looks at is taken by the second one. -/
theorem Steady.bind {f : α → Parser β} (hp : Steady n k p) (hf : ∀ a, Steady m j (f a)) :
    Steady (n + m) (max j (k - m)) (p >>= f) where
  takes := by
    intro ts b rest h
    obtain ⟨a, mid, ha, hb⟩ := run_bind_eq_ok.1 h
    have h₁ := hp.takes ha
    have h₂ := (hf a).takes hb
    omega
  stays := by
    intro ts b rest h hl more
    obtain ⟨a, mid, ha, hb⟩ := run_bind_eq_ok.1 h
    have h₂ := (hf a).takes hb
    rw [run_bind_of_ok (hp.stays ha (by omega) more)]
    exact (hf a).stays hb (by omega) more
  blames := by
    intro ts fault h
    rw [run_bind] at h
    split at h
    · next he =>
      cases h
      exact hp.blames he
    · next a mid ha => exact Nat.le_trans ((hf a).blames h) (length_le ha)

theorem Steady.map {f : α → β} (h : Steady n k p) : Steady n k (f <$> p) := by
  rw [← bind_pure_comp]
  exact (h.bind fun a => .pure (f a)).weaken ⟨Nat.le_refl n, by omega⟩

theorem Steady.ite {c : Prop} [Decidable c] {q : Parser α} (hp : Steady n k p)
    (hq : Steady m j q) : Steady (min n m) (max k j) (if c then p else q) := by
  split
  · exact hp.weaken ⟨Nat.min_le_left n m, Nat.le_max_left k j⟩
  · exact hq.weaken ⟨Nat.min_le_right n m, Nat.le_max_right k j⟩

/-- Whoever always refuses takes any number of lexemes. -/
theorem Steady.refuse (n k : Nat) (cause : Lexeme → Cause) :
    Steady n k (Parser.refuse cause : Parser α) where
  takes := by rintro ts b rest ⟨⟩
  stays := by rintro ts b rest ⟨⟩
  blames := by rintro ts fault ⟨⟩; exact Nat.le_refl _

/-- The property depends on the first `k` lexemes only. -/
def LooksAt (k : Nat) (f : List Lexeme → β) : Prop :=
  ∀ ts more, k ≤ ts.length → f (ts ++ more) = f ts

theorem LooksAt.comp {γ : Type} {f : List Lexeme → β} (h : LooksAt k f) (g : β → γ) :
    LooksAt k fun ts => g (f ts) :=
  fun ts more hl => congrArg g (h ts more hl)

theorem Steady.look {f : List Lexeme → β} (h : LooksAt k f) : Steady 0 k (look f) where
  takes := by rintro ts b rest ⟨⟩; exact Nat.le_refl _
  stays := by
    rintro ts b rest ⟨⟩ hl more
    rw [run_look, h ts more hl]
  blames := by rintro ts fault ⟨⟩

/-! ## Lexemes -/

/-- A parser that decides by one lexeme and takes it. -/
theorem Steady.single (read : Lexeme → Except Cause α)
    (cons : ∀ t ts, p.run (t :: ts) =
      match read t with
      | .ok a => .ok (a, ts)
      | .error cause => .error ⟨cause, ts.length + 1⟩)
    (nil : ∃ cause, p.run [] = .error ⟨cause, 0⟩) : Steady 1 0 p := by
  have taken {ts a rest} (h : p.run ts = .ok (a, rest)) :
      ∃ t, ts = t :: rest ∧ read t = .ok a := by
    cases ts with
    | nil =>
      obtain ⟨cause, hn⟩ := nil
      rw [hn] at h
      cases h
    | cons t ts =>
      rw [cons] at h
      cases hr : read t <;> rw [hr] at h <;> cases h
      exact ⟨t, rfl, hr⟩
  constructor
  · intro ts a rest h
    obtain ⟨t, rfl, _⟩ := taken h
    exact Nat.le_refl _
  · intro ts a rest h _ more
    obtain ⟨t, rfl, hr⟩ := taken h
    rw [List.cons_append, cons, hr]
  · intro ts fault h
    cases ts with
    | nil =>
      obtain ⟨cause, hn⟩ := nil
      rw [hn] at h
      cases h
      exact Nat.le_refl _
    | cons t ts =>
      rw [cons] at h
      cases hr : read t <;> rw [hr] at h <;> cases h
      exact Nat.le_refl _

theorem satisfy_steady (wanted : Kind → Bool) (cause : Lexeme → Cause) :
    Steady 1 0 (satisfy wanted cause) := by
  refine .single (fun t => if wanted t.kind then .ok t.text else .error (cause t))
    ?_ ⟨_, rfl⟩
  intro t ts
  simp only [satisfy]
  split <;> rfl

theorem expect_steady (k : Kind) : Steady 1 0 (expect k) := satisfy_steady ..

theorem keyword_steady (k : Keyword) : Steady 1 0 (keyword k) := expect_steady _

theorem delimiter_steady (d : Delimiter) : Steady 1 0 (delimiter d) := expect_steady _

theorem word_steady : Steady 1 0 word := satisfy_steady ..

theorem fieldNumber_steady : Steady 1 0 fieldNumber := by
  refine .single (fun t =>
    if t.kind = .number then
      (FieldNumber.value? t.text.toList).elim (.error (.invalidNumber t.text)) fun n =>
        if 0 < n then .ok n else .error (.nonPositiveNumber t.text)
    else .error (.expected .number t)) ?_ ⟨_, rfl⟩
  intro t ts
  simp only [fieldNumber]
  split
  · cases FieldNumber.value? t.text.toList with
    | none => rfl
    | some n =>
      dsimp only [Option.elim]
      split <;> rfl
  · rfl

/-! ## Runs of lexemes -/

section Spans

variable {q : Lexeme → Bool} {ts : List Lexeme}

theorem takeWhile_append_of_dropWhile (h : ts.dropWhile q ≠ []) (more : List Lexeme) :
    (ts ++ more).takeWhile q = ts.takeWhile q := by
  rw [List.takeWhile_append, if_neg]
  intro hl
  have hsplit := congrArg List.length (List.takeWhile_append_dropWhile (p := q) (l := ts))
  rw [List.length_append, hl] at hsplit
  exact h (List.eq_nil_of_length_eq_zero (by omega))

theorem dropWhile_append_of_dropWhile (h : ts.dropWhile q ≠ []) (more : List Lexeme) :
    (ts ++ more).dropWhile q = ts.dropWhile q ++ more := by
  rw [List.dropWhile_append, if_neg (by simpa using h)]

end Spans

/-- The run goes on at the end of the input, so that something else has to follow it. -/
theorem textWhile_steady (q : Lexeme → Bool) : Steady 0 1 (textWhile q) where
  takes h := length_le h
  stays := by
    rintro ts a rest ⟨⟩ hl more
    have hne : ts.dropWhile q ≠ [] := List.length_pos_iff.1 hl
    simp only [textWhile]
    rw [takeWhile_append_of_dropWhile hne, dropWhile_append_of_dropWhile hne]
  blames := by rintro ts fault ⟨⟩

theorem statementText_steady : Steady 1 0 statementText where
  takes := by
    intro ts a rest h
    simp only [statementText] at h
    split at h
    · cases h
    · next hd =>
      cases h
      have hl := (List.dropWhile_suffix (l := ts) (!·.is (.delimiter .semicolon))).length_le
      rw [hd] at hl
      exact hl
  stays := by
    intro ts a rest h _ more
    simp only [statementText] at h ⊢
    split at h
    · cases h
    · next hd =>
      cases h
      have hne : ts.dropWhile (!·.is (.delimiter .semicolon)) ≠ [] := by
        rw [hd]
        exact List.cons_ne_nil _ _
      rw [takeWhile_append_of_dropWhile hne, dropWhile_append_of_dropWhile hne, hd]
      rfl
  blames := by
    intro ts fault h
    simp only [statementText] at h
    split at h <;> cases h
    exact Nat.zero_le _

theorem balanced_steady (opening closing : Delimiter) : Steady 1 0 (balanced opening closing) where
  takes h := balanced_consuming _ _ h
  stays := by
    intro ts a rest h _ more
    cases ts with
    | nil => cases h
    | cons t ts =>
      simp only [balanced, List.cons_append] at h ⊢
      split at h
      · next ho =>
        rw [if_pos ho]
        split at h
        · next hc =>
          cases h
          obtain ⟨hcloses, rfl⟩ := closeBrackets?_eq_some.1 hc
          rw [List.append_assoc, closeBrackets?_of_closesBracket hcloses]
        · cases h
      · cases h
  blames := by
    intro ts fault h
    cases ts with
    | nil => cases h; exact Nat.le_refl _
    | cons t ts =>
      simp only [balanced] at h
      split at h
      · split at h <;> cases h
        exact Nat.le_refl _
      · cases h
        exact Nat.le_refl _

/-! ## Loops -/

section Items

variable {stop : List Lexeme → Bool} {item : Parser (Option α)} {hc : Consuming item}
  {ts rest : List Lexeme} {as : List α}

theorem length_le_of_itemsRead (h : ItemsRead stop item ts as rest) : rest.length ≤ ts.length := by
  induction h with
  | done => exact Nat.le_refl _
  | item _ hi _ ih => exact Nat.le_trans ih (length_le hi)

theorem ItemsRead.append (hi : Steady 1 1 item) (hs : LooksAt 1 stop)
    (h : ItemsRead stop item ts as rest) (hl : 1 ≤ rest.length) (more : List Lexeme) :
    ItemsRead stop item (ts ++ more) as (rest ++ more) := by
  induction h with
  | @done ts hd =>
    have hne : ts.isEmpty = false := by
      cases ts with
      | nil => exact absurd hl (Nat.not_succ_le_zero 0)
      | cons => rfl
    refine .done ?_
    rw [hs ts more hl]
    simp only [hne, Bool.false_or] at hd
    rw [hd, Bool.or_true]
  | @item ts mid rest o as hst hr hread ih =>
    have hmid := length_le_of_itemsRead hread
    have hts := hi.takes hr
    exact .item (by rw [hs ts more (by omega), hst]) (hi.stays hr (by omega) more) (ih hl)

theorem itemsFrom_blames (hi : Steady 1 k item) {fault : Fault}
    (h : itemsFrom stop item hc ts = .error fault) : fault.remaining ≤ ts.length := by
  induction hn : ts.length using Nat.strongRecOn generalizing ts with
  | ind n ih =>
    rw [itemsFrom] at h
    split at h
    · cases h
    · split at h
      · next he =>
        cases h
        exact hn ▸ hi.blames he
      · next o mid hm =>
        have hlt := hn ▸ hc hm
        cases hr : itemsFrom stop item hc mid with
        | error e =>
          rw [hr] at h
          cases h
          exact Nat.le_trans (ih _ hlt hr rfl) (Nat.le_of_lt hlt)
        | ok r =>
          rw [hr] at h
          cases h

theorem itemsFrom_of_run {o : Option α} {mid : List Lexeme} (hs : stop ts = false)
    (hi : item.run ts = .ok (o, mid)) :
    itemsFrom stop item hc ts =
      (itemsFrom stop item hc mid).map fun (as, rest) => (o.toList ++ as, rest) := by
  have hne : ts.isEmpty = false := by
    cases ts with
    | nil => exact absurd (hc hi) (Nat.not_lt_zero _)
    | cons => rfl
  rw [itemsFrom, if_neg (by simp [hne, hs])]
  split
  · next he => rw [hi] at he; cases he
  · next he =>
    rw [hi] at he
    cases he
    rfl

/-- A loop that stops nowhere goes on with what follows. -/
theorem itemsFrom_append (hi : Steady 1 0 item) (h : ItemsRead (fun _ => false) item ts as rest)
    (more : List Lexeme) :
    itemsFrom (fun _ => false) item hc (ts ++ more) =
      (itemsFrom (fun _ => false) item hc more).map fun (bs, rest) => (as ++ bs, rest) := by
  induction h with
  | @done ts hd =>
    have hts : ts = [] := by simpa using hd
    rw [hts, List.nil_append]
    cases itemsFrom (fun _ => false) item hc more <;> rfl
  | item _ hr _ ih =>
    rw [itemsFrom_of_run rfl (hi.stays hr (Nat.zero_le _) more), ih]
    cases itemsFrom (fun _ => false) item hc more with
    | error e => rfl
    | ok r => simp [Except.map]

theorem items_steady (hi : Steady 1 1 item) (hs : LooksAt 1 stop) :
    Steady 0 1 (items stop item hc) where
  takes h := length_le h
  stays h hl more := itemsFrom_eq_ok.2 ((itemsFrom_eq_ok.1 h).append hi hs hl more)
  blames := itemsFrom_blames hi

end Items

theorem atBodyEnd_looksAt : LooksAt 1 atBodyEnd := by
  intro ts more hl
  cases ts with
  | nil => exact absurd hl (Nat.not_succ_le_zero 0)
  | cons => rfl

theorem braced_steady {item : Parser (Option α)} {hc : Consuming item} (hi : Steady 1 1 item) :
    Steady 2 0 (braced item hc) :=
  .weaken (by decide) <| (delimiter_steady _).bind fun _ =>
    (items_steady hi atBodyEnd_looksAt).bind fun _ =>
    (delimiter_steady _).bind fun _ => .pure _

end ServiceScaffold.Schema.Parser

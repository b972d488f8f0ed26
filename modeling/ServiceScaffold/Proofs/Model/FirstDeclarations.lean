import ServiceScaffold.Model.Distinct

/-!
# The first declaration of each name

What one pass with the names seen so far keeps and leaves over, said without the pass: the keys kept
are the distinct keys in the order of their first occurrence, each item kept is the one that a search
for its key finds, and an item is left over exactly when one of its key stands in front of it.
-/
namespace ServiceScaffold.Model

variable {α : Type} {key : α → String}

/-- The items with one of their key in front of them. -/
def withOneInFront (key : α → String) (as : List α) : List α :=
  (as.zipIdx.filter fun p => key p.1 ∈ (as.take p.2).map key).map Prod.fst

/-! ## The items kept -/

theorem map_firstsFrom (seen : List String) (as : List α) :
    (firstsFrom key seen as).map key = ((as.map key).filter (· ∉ seen)).eraseDups := by
  induction as generalizing seen with
  | nil => rfl
  | cons a as ih =>
    by_cases ha : key a ∈ seen
    · rw [firstsFrom, if_pos ha, ih, List.map_cons, List.filter_cons_of_neg (by simpa using ha)]
    · rw [firstsFrom, if_neg ha, List.map_cons, ih, List.map_cons,
        List.filter_cons_of_pos (by simpa using ha), List.eraseDups_cons, List.filter_filter]
      -- seen from now on: the key of the item as well
      congr 3
      funext k
      by_cases hk : k = key a <;> simp [hk]

theorem map_firsts (key : α → String) (as : List α) :
    (firsts key as).map key = (as.map key).eraseDups := by
  have h : (as.map key).filter (· ∉ ([] : List String)) = as.map key :=
    List.filter_eq_self.2 fun _ _ => by simp
  rw [firsts, map_firstsFrom, h]

theorem find?_of_mem_firstsFrom {seen : List String} {as : List α} {a : α}
    (h : a ∈ firstsFrom key seen as) : as.find? (fun b => key b = key a) = some a := by
  induction as generalizing seen with
  | nil => cases h
  | cons b as ih =>
    have hseen := not_mem_of_mem_firstsFrom h
    rw [firstsFrom] at h
    by_cases hb : key b ∈ seen
    · rw [if_pos hb] at h
      have hne : key b ≠ key a := fun e => hseen (e ▸ hb)
      rw [List.find?_cons_of_neg (by simpa using hne), ih h]
    · rw [if_neg hb] at h
      rcases List.mem_cons.1 h with rfl | h
      · exact List.find?_cons_of_pos (by simp)
      · have hne : key b ≠ key a := fun e =>
          not_mem_of_mem_firstsFrom h (by simp [e])
        rw [List.find?_cons_of_neg (by simpa using hne), ih h]

theorem find?_of_mem_firsts {as : List α} {a : α} (h : a ∈ firsts key as) :
    as.find? (fun b => key b = key a) = some a :=
  find?_of_mem_firstsFrom h

/-- The items kept are those that the keys find. -/
theorem map_firsts_eq {β : Type} (f : Option α → β) (as : List α) :
    (firsts key as).map (fun a => (key a, f (some a))) =
      (as.map key).eraseDups.map fun k => (k, f (as.find? fun a => key a = k)) := by
  rw [← map_firsts, List.map_map]
  refine List.map_congr_left ?_
  intro a ha
  rw [Function.comp_apply, find?_of_mem_firsts ha]

/-! ## The items left over -/

theorem repeatsFrom_eq (before : List α) {seen : List String}
    (hs : ∀ k, k ∈ seen ↔ k ∈ before.map key) (as : List α) :
    repeatsFrom key seen as =
      ((as.zipIdx before.length).filter
        fun p => key p.1 ∈ ((before ++ as).take p.2).map key).map Prod.fst := by
  induction as generalizing before seen with
  | nil => rfl
  | cons a as ih =>
    have htake : (before ++ a :: as).take before.length = before := List.take_left
    have happend : before ++ a :: as = before ++ [a] ++ as := by simp
    have hlength : before.length + 1 = (before ++ [a]).length := by simp
    rw [repeatsFrom, List.zipIdx_cons, hlength]
    by_cases ha : key a ∈ seen
    · have hseen : ∀ k, k ∈ seen ↔ k ∈ (before ++ [a]).map key := by
        intro k
        rw [List.map_append, List.mem_append, ← hs]
        simp only [List.map_cons, List.map_nil, List.mem_singleton]
        exact ⟨.inl, fun h => h.elim id fun e => e ▸ ha⟩
      rw [if_pos ha, List.filter_cons_of_pos (by simpa [htake, ← hs] using ha), List.map_cons,
        ih _ hseen, happend]
    · have hseen : ∀ k, k ∈ key a :: seen ↔ k ∈ (before ++ [a]).map key := by
        intro k
        rw [List.map_append, List.mem_append, ← hs, List.mem_cons, or_comm]
        simp
      rw [if_neg ha, List.filter_cons_of_neg (by simpa [htake, ← hs] using ha), ih _ hseen, happend]

theorem repeats_eq (key : α → String) (as : List α) : repeats key as = withOneInFront key as :=
  repeatsFrom_eq [] (fun _ => Iff.rfl) as

/-! ## Messages -/

namespace Service

/-- The names of the messages, each where it is declared first. -/
def messageNames (s : Service) : List String :=
  (s.messages.map Message.name).eraseDups

/-- The fields of the first message of a name; none where there is no such message. -/
def fieldsOf (s : Service) (name : String) : List Field :=
  (s.messages.find? (·.name = name)).elim [] Message.fields

variable {s : Service} {name : String}

theorem mem_messageNames : name ∈ s.messageNames ↔ ∃ m ∈ s.messages, m.name = name := by
  simp [messageNames]

theorem fieldsOf_of_not_mem (h : name ∉ s.messageNames) : s.fieldsOf name = [] := by
  have none : s.messages.find? (·.name = name) = none := by
    rw [List.find?_eq_none]
    intro m hm
    simpa using fun e => h (mem_messageNames.2 ⟨m, hm, e⟩)
  rw [fieldsOf, none]
  rfl

/-- The messages kept, each by what is made of its fields. -/
theorem map_distinctMessages {β : Type} (f : List Field → β) (s : Service) :
    s.distinctMessages.map (fun m => (m.name, f m.fields)) =
      s.messageNames.map fun n => (n, f (s.fieldsOf n)) :=
  map_firsts_eq (fun m => f (m.elim [] Message.fields)) s.messages

theorem distinctMessages_subset (s : Service) : s.distinctMessages ⊆ s.messages :=
  fun _ h => List.mem_of_find?_eq_some (find?_of_mem_firsts h)

theorem repetitions_eq (s : Service) :
    s.repetitions = (withOneInFront Message.name s.messages).map fun m => .repeatedMessage m.name := by
  rw [repetitions, repeats_eq]

end Service

end ServiceScaffold.Model

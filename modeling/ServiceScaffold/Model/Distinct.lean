import ServiceScaffold.Model.Draft

/-!
# First declarations of a name

Of several items with one key the first is kept. Nested messages go by their simple names, so
that a schema may declare one name more than once; `distinctMessages` keeps the first message of
each name and `repetitions` warns of every other one.
-/
namespace ServiceScaffold.Model

variable {α : Type}

/-- The items whose key is neither among `seen` nor the key of an item before them. -/
def firstsFrom (key : α → String) (seen : List String) : List α → List α
  | [] => []
  | a :: as =>
    if key a ∈ seen then firstsFrom key seen as
    else a :: firstsFrom key (key a :: seen) as

/-- The items left over by `firstsFrom`. -/
def repeatsFrom (key : α → String) (seen : List String) : List α → List α
  | [] => []
  | a :: as =>
    if key a ∈ seen then a :: repeatsFrom key seen as
    else repeatsFrom key (key a :: seen) as

def firsts (key : α → String) (as : List α) : List α := firstsFrom key [] as

def repeats (key : α → String) (as : List α) : List α := repeatsFrom key [] as

def Service.distinctMessages (s : Service) : List Message :=
  firsts Message.name s.messages

def Service.repetitions (s : Service) : List Warning :=
  (repeats Message.name s.messages).map fun m => .repeatedMessage m.name

theorem not_mem_of_mem_firstsFrom {key : α → String} {seen : List String} {as : List α} {a : α}
    (h : a ∈ firstsFrom key seen as) : key a ∉ seen := by
  induction as generalizing seen with
  | nil => cases h
  | cons b as ih =>
    simp only [firstsFrom] at h
    split at h
    · exact ih h
    · next hb =>
      rcases List.mem_cons.1 h with rfl | h
      · exact hb
      · exact fun hs => ih h (List.mem_cons_of_mem _ hs)

/-- No key occurs twice among the items kept. -/
theorem nodup_map_firstsFrom (key : α → String) (seen : List String) (as : List α) :
    ((firstsFrom key seen as).map key).Nodup := by
  induction as generalizing seen with
  | nil => simp [firstsFrom]
  | cons a as ih =>
    simp only [firstsFrom]
    split
    · exact ih seen
    · rw [List.map_cons, List.nodup_cons]
      refine ⟨fun h => ?_, ih _⟩
      obtain ⟨b, hb, he⟩ := List.mem_map.1 h
      exact not_mem_of_mem_firstsFrom hb (by simp [he])

theorem mem_map_firstsFrom {key : α → String} {seen : List String} {as : List α} {k : String} :
    k ∈ (firstsFrom key seen as).map key ↔ k ∉ seen ∧ ∃ a ∈ as, key a = k := by
  induction as generalizing seen with
  | nil => simp [firstsFrom]
  | cons a as ih =>
    simp only [firstsFrom]
    by_cases ha : key a ∈ seen
    · rw [if_pos ha, ih]
      refine and_congr_right fun hk => ?_
      have hne : key a ≠ k := fun e => hk (e ▸ ha)
      simp [hne]
    · rw [if_neg ha, List.map_cons, List.mem_cons, ih]
      by_cases hk : k = key a
      · simp [hk, ha]
      · simp [hk, Ne.symm hk]

/-- Every key has an item among those kept. -/
theorem mem_map_firsts {key : α → String} {as : List α} {k : String} :
    k ∈ (firsts key as).map key ↔ ∃ a ∈ as, key a = k := by
  simp [firsts, mem_map_firstsFrom]

end ServiceScaffold.Model

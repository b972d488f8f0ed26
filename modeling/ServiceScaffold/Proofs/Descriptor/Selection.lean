import ServiceScaffold.Descriptor.Compiled

/-!
# The file chosen from a set

A target is looked for twice: the first file of exactly that name is taken, or else the last one
whose path ends in the same component. Both passes look at the names alone, so the choice depends
only on the files that are looked for, whatever stands between them (`Inserted`).
-/
namespace ServiceScaffold.Descriptor

/-! ## First and last elements -/

section Elements

variable {α : Type} {p : α → Prop} {as : List α} {a : α}

/-- Of the elements with the property the first one. -/
def IsFirst (p : α → Prop) (as : List α) (a : α) : Prop :=
  p a ∧ ∃ before behind, as = before ++ a :: behind ∧ ∀ b ∈ before, ¬ p b

/-- Of the elements with the property the last one. -/
def IsLast (p : α → Prop) (as : List α) (a : α) : Prop :=
  p a ∧ ∃ before behind, as = before ++ a :: behind ∧ ∀ b ∈ behind, ¬ p b

theorem IsFirst.mem (h : IsFirst p as a) : a ∈ as := by
  obtain ⟨_, before, behind, rfl, _⟩ := h
  exact List.mem_append_right _ List.mem_cons_self

theorem isLast_iff_isFirst_reverse : IsLast p as a ↔ IsFirst p as.reverse a := by
  refine and_congr_right fun _ => ?_
  constructor
  · intro ⟨before, behind, hs, hb⟩
    refine ⟨behind.reverse, before.reverse, by simp [hs], ?_⟩
    intro b h
    exact hb b (List.mem_reverse.1 h)
  · intro ⟨before, behind, hs, hb⟩
    refine ⟨behind.reverse, before.reverse, ?_, ?_⟩
    · rw [← List.reverse_reverse as, hs]
      simp
    · intro b h
      exact hb b (List.mem_reverse.1 h)

theorem IsLast.mem (h : IsLast p as a) : a ∈ as :=
  List.mem_reverse.1 (isLast_iff_isFirst_reverse.1 h).mem

section Search

variable [DecidablePred p]

theorem find?_eq_some_iff_isFirst : as.find? p = some a ↔ IsFirst p as a := by
  rw [List.find?_eq_some_iff_append]
  simp [IsFirst]

theorem getLast?_filter_eq_some_iff : (as.filter p).getLast? = some a ↔ IsLast p as a := by
  rw [List.getLast?_filter, isLast_iff_isFirst_reverse]
  exact find?_eq_some_iff_isFirst

theorem getLast?_filter_eq_none_iff : (as.filter p).getLast? = none ↔ ∀ b ∈ as, ¬ p b := by
  rw [List.getLast?_eq_none_iff, List.filter_eq_nil_iff]
  simp

end Search

/-- The second list is the first one with elements put in anywhere, all of them allowed ones. -/
inductive Inserted (allowed : α → Prop) : List α → List α → Prop
  | nil : Inserted allowed [] []
  | keep {as bs} (a : α) : Inserted allowed as bs → Inserted allowed (a :: as) (a :: bs)
  | put {as bs} {b : α} : allowed b → Inserted allowed as bs → Inserted allowed as (b :: bs)

/-- What is put in is not seen by those who look for something else. -/
theorem Inserted.filter [DecidablePred p] {allowed : α → Prop} {as bs : List α}
    (h : Inserted allowed as bs) (hp : ∀ b, allowed b → ¬ p b) : bs.filter p = as.filter p := by
  induction h with
  | nil => rfl
  | keep a _ ih => rw [List.filter_cons, List.filter_cons, ih]
  | put hb _ ih => rw [List.filter_cons_of_neg (by simpa using hp _ hb), ih]

end Elements

/-! ## Last components -/

/-- The component has no slash, and the path is nothing else or has a slash in front of it. -/
def EndsIn (path component : String) : Prop :=
  '/' ∉ component.toList ∧ (path = component ∨ ∃ front, path = front ++ "/" ++ component)

theorem endsIn_iff {path component : String} :
    EndsIn path component ↔ lastComponent path = component := by
  have last (front : List Char) {s : List Char} (h : '/' ∉ s) :
      Text.afterLast '/' (front ++ '/' :: s) = s := by
    rw [List.append_cons, Text.afterLast_append h]
    simp [Text.afterLast]
  rw [lastComponent, ← String.toList_inj, String.toList_ofList]
  constructor
  · intro h
    obtain ⟨hc, rfl | ⟨front, rfl⟩⟩ := h
    · have := Text.afterLast_append hc []
      rwa [List.nil_append] at this
    · simpa using last front.toList hc
  · intro h
    refine ⟨h ▸ Text.not_mem_afterLast '/' _, ?_⟩
    obtain ⟨front, hs, rfl | ⟨before, rfl⟩⟩ := Text.eq_append_afterLast '/' path.toList
    · rw [h, List.nil_append] at hs
      exact .inl (String.toList_inj.1 hs)
    · refine .inr ⟨String.ofList before, String.toList_inj.1 ?_⟩
      rw [h] at hs
      simpa using hs

/-- The path of the file ends in the same component as the target. -/
def File.Matches (f : File) (target : String) : Prop :=
  ∃ component, EndsIn f.name component ∧ EndsIn target component

theorem File.matches_iff {f : File} {target : String} :
    f.Matches target ↔ lastComponent f.name = lastComponent target := by
  simp [File.Matches, endsIn_iff, eq_comm]

instance (f : File) (target : String) : Decidable (f.Matches target) :=
  decidable_of_iff _ File.matches_iff.symm

theorem File.matches_of_name {f : File} {target : String} (h : f.name = target) :
    f.Matches target :=
  File.matches_iff.2 (congrArg lastComponent h)

/-! ## The choice -/

namespace FileSet

variable {files more : FileSet} {target : String} {f : File}

/-- Why a file is chosen. -/
inductive Chooses (files : FileSet) (target : String) (f : File) : Prop
  | exact : target ≠ "" → IsFirst (·.name = target) files f → Chooses files target f
  | matching : target ≠ "" → (∀ g ∈ files, g.name ≠ target) → IsLast (·.Matches target) files f →
      Chooses files target f
  | serving : target = "" → IsLast (·.services ≠ []) files f → Chooses files target f
  | last : target = "" → (∀ g ∈ files, g.services = []) → files.getLast? = some f →
      Chooses files target f

theorem Chooses.mem (h : Chooses files target f) : f ∈ files := by
  cases h with
  | exact _ h => exact h.mem
  | matching _ _ h => exact h.mem
  | serving _ h => exact h.mem
  | last _ _ h => exact List.mem_of_getLast? h

theorem chooses_iff_of_target (ht : target ≠ "") :
    Chooses files target f ↔ IsFirst (·.name = target) files f ∨
      (∀ g ∈ files, g.name ≠ target) ∧ IsLast (·.Matches target) files f := by
  constructor
  · intro h
    cases h with
    | exact _ h => exact .inl h
    | matching _ hn h => exact .inr ⟨hn, h⟩
    | serving h => exact absurd h ht
    | last h => exact absurd h ht
  · intro h
    exact h.elim (.exact ht) fun ⟨hn, hm⟩ => .matching ht hn hm

theorem chooses_iff_without_target :
    Chooses files "" f ↔ IsLast (·.services ≠ []) files f ∨
      (∀ g ∈ files, g.services = []) ∧ files.getLast? = some f := by
  constructor
  · intro h
    cases h with
    | exact h => exact absurd rfl h
    | matching h => exact absurd rfl h
    | serving _ h => exact .inl h
    | last _ hs h => exact .inr ⟨hs, h⟩
  · intro h
    exact h.elim (.serving rfl) fun ⟨hs, hl⟩ => .last rfl hs hl

/-! ## The two searches -/

/-- The file that a set has for a target: by its name, or else by its last component. -/
def found (files : FileSet) (target : String) : Option File :=
  (files.find? (·.name = target)).or (files.filter (·.Matches target)).getLast?

theorem found_eq_some_iff : files.found target = some f ↔ IsFirst (·.name = target) files f ∨
    (∀ g ∈ files, g.name ≠ target) ∧ IsLast (·.Matches target) files f := by
  rw [found, Option.or_eq_some_iff, find?_eq_some_iff_isFirst, getLast?_filter_eq_some_iff,
    List.find?_eq_none]
  simp only [decide_eq_true_eq]

theorem found_eq_none_iff : files.found target = none ↔ ∀ g ∈ files, ¬ g.Matches target := by
  rw [found, Option.or_eq_none_iff, getLast?_filter_eq_none_iff, List.find?_eq_none]
  simp only [decide_eq_true_eq, and_iff_right_iff_imp]
  intro h g hg hn
  exact h g hg (File.matches_of_name hn)

/-- The last file that declares a service, or else the last file. -/
def served (files : FileSet) : Option File :=
  (files.filter (·.services ≠ [])).getLast?.or files.getLast?

theorem served_eq_some_iff : files.served = some f ↔ IsLast (·.services ≠ []) files f ∨
    (∀ g ∈ files, g.services = []) ∧ files.getLast? = some f := by
  rw [served, Option.or_eq_some_iff, getLast?_filter_eq_some_iff, getLast?_filter_eq_none_iff]
  simp only [ne_eq, Decidable.not_not]

theorem served_eq_none_iff : files.served = none ↔ files = [] := by
  rw [served, Option.or_eq_none_iff, List.getLast?_eq_none_iff, List.getLast?_eq_none_iff,
    and_iff_right_iff_imp]
  intro h
  rw [h, List.filter_nil]

theorem select_of_target (hne : files ≠ []) (ht : target ≠ "") : files.select target =
    (files.found target).elim (.error (.notFound target (files.map File.name))) .ok := by
  have hf : (files.filter fun f => lastComponent f.name = lastComponent target) =
      files.filter (·.Matches target) := by simp only [File.matches_iff]
  rw [select, List.getLast?_eq_some_getLast hne, hf, found]
  dsimp only
  rw [if_neg ht]
  cases files.find? (·.name = target) with
  | some f => rfl
  | none => cases (files.filter (·.Matches target)).getLast? <;> rfl

theorem select_without_target : files.select "" = files.served.elim (.error .noFiles) .ok := by
  have hf : (files.filter fun f => !f.services.isEmpty) = files.filter (·.services ≠ []) := by
    refine List.filter_congr fun f _ => ?_
    rw [Bool.eq_iff_iff]
    simp
  rw [select, hf, served]
  cases hl : files.getLast? with
  | none =>
    rw [List.getLast?_eq_none_iff.1 hl]
    rfl
  | some last => cases (files.filter (·.services ≠ [])).getLast? <;> rfl

theorem elim_eq_ok_iff {o : Option File} {fault : SelectionFault} :
    o.elim (.error fault) Except.ok = .ok f ↔ o = some f := by
  cases o <;> simp

theorem elim_eq_error_iff {o : Option File} {fault fault' : SelectionFault} :
    o.elim (.error fault) Except.ok = .error fault' ↔ o = none ∧ fault' = fault := by
  cases o <;> simp [eq_comm]

theorem select_eq_ok_iff : files.select target = .ok f ↔ Chooses files target f := by
  by_cases ht : target = ""
  · rw [ht, select_without_target, elim_eq_ok_iff, served_eq_some_iff, chooses_iff_without_target]
  by_cases hne : files = []
  · rw [hne]
    exact iff_of_false (fun h => nomatch h) fun h => List.not_mem_nil h.mem
  · rw [select_of_target hne ht, elim_eq_ok_iff, found_eq_some_iff, chooses_iff_of_target ht]

theorem select_eq_error_iff {fault : SelectionFault} : files.select target = .error fault ↔
    files = [] ∧ fault = .noFiles ∨
      files ≠ [] ∧ target ≠ "" ∧ (∀ f ∈ files, ¬ f.Matches target) ∧
        fault = .notFound target (files.map File.name) := by
  by_cases hne : files = []
  · subst hne
    have h : select [] target = .error .noFiles := rfl
    rw [h, Except.error.injEq]
    simp [eq_comm]
  by_cases ht : target = ""
  · rw [ht, select_without_target, elim_eq_error_iff, served_eq_none_iff]
    simp [hne]
  · rw [select_of_target hne ht, elim_eq_error_iff, found_eq_none_iff]
    simp [hne, ht]

/-! ## Files that are put in -/

/-- Only the files with the last component of the target are looked for. -/
theorem found_of_inserted (h : Inserted (¬ ·.Matches target) files more) :
    more.found target = files.found target := by
  have byName : more.filter (·.name = target) = files.filter (·.name = target) :=
    h.filter fun g hg hn => hg (File.matches_of_name hn)
  rw [found, found, ← List.head?_filter, ← List.head?_filter, byName, h.filter fun _ hg => hg]

theorem select_of_inserted (ht : target ≠ "") (h : Inserted (¬ ·.Matches target) files more) :
    more.select target = .ok f ↔ files.select target = .ok f := by
  simp only [select_eq_ok_iff, chooses_iff_of_target ht, ← found_eq_some_iff, found_of_inserted h]

/-- A file of exactly the name stays the first one among files of other names. -/
theorem chooses_of_inserted (ht : target ≠ "") (h : Inserted (·.name ≠ target) files more)
    (hf : Chooses files target f) (hn : f.name = target) : Chooses more target f := by
  refine .exact ht ?_
  rw [chooses_iff_of_target ht] at hf
  rw [← find?_eq_some_iff_isFirst, ← List.head?_filter, h.filter fun _ hg => hg,
    List.head?_filter, find?_eq_some_iff_isFirst]
  exact hf.resolve_right fun ⟨hnone, hm⟩ => hnone f hm.mem hn

/-- A file is refused when there is none or none that ends like the target, and otherwise it is the
one asked for; other files put in anywhere change nothing, and files of the same last component
leave an exact match in its place. -/
theorem select_picks (files : FileSet) (target : String) :
    ((∃ fault, files.select target = .error fault) ↔
      files = [] ∨ target ≠ "" ∧ ∀ f ∈ files, ¬ f.Matches target) ∧
    (∀ f, files.select target = .ok f ↔ Chooses files target f) ∧
    (target ≠ "" → ∀ more f,
      (Inserted (¬ ·.Matches target) files more →
        (select more target = .ok f ↔ files.select target = .ok f)) ∧
      (Inserted (·.name ≠ target) files more → files.select target = .ok f → f.name = target →
        select more target = .ok f)) := by
  refine ⟨?_, fun f => select_eq_ok_iff, fun ht more f => ⟨select_of_inserted ht, ?_⟩⟩
  · simp only [select_eq_error_iff]
    constructor
    · intro ⟨fault, h⟩
      exact h.imp And.left fun ⟨_, ht, hm, _⟩ => ⟨ht, hm⟩
    · intro h
      by_cases hne : files = []
      · exact ⟨.noFiles, .inl ⟨hne, rfl⟩⟩
      · obtain ⟨ht, hm⟩ := h.resolve_left hne
        exact ⟨_, .inr ⟨hne, ht, hm, rfl⟩⟩
  · intro h hf hn
    rw [select_eq_ok_iff] at hf ⊢
    exact chooses_of_inserted ht h hf hn

/-- A file that declares nothing but its name. -/
def bareFile (name : String) : File :=
  ⟨name, "", [], [], [], [], [], [], none, ""⟩

/-- Files of the same last component in front of it and behind it leave `user.proto` the chosen
one. -/
theorem select_picks_user :
    "user.proto" ≠ "" ∧
    Inserted (·.name ≠ "user.proto") [bareFile "common/user.proto", bareFile "user.proto"]
      [bareFile "common/user.proto", bareFile "a/user.proto", bareFile "user.proto",
        bareFile "b/user.proto"] ∧
    select [bareFile "common/user.proto", bareFile "a/user.proto", bareFile "user.proto",
      bareFile "b/user.proto"] "user.proto" = .ok (bareFile "user.proto") := by
  have put : Inserted (·.name ≠ "user.proto")
      [bareFile "common/user.proto", bareFile "user.proto"]
      [bareFile "common/user.proto", bareFile "a/user.proto", bareFile "user.proto",
        bareFile "b/user.proto"] :=
    .keep _ (.put (by decide) (.keep _ (.put (by decide) .nil)))
  obtain ⟨_, picked, kept⟩ :=
    select_picks [bareFile "common/user.proto", bareFile "user.proto"] "user.proto"
  refine ⟨by decide, put, (kept (by decide) _ _).2 put ((picked _).2 ?_) rfl⟩
  exact .exact (by decide) ⟨rfl, [bareFile "common/user.proto"], [], rfl, by decide⟩

end FileSet

end ServiceScaffold.Descriptor

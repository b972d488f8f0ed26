import Mathlib.Data.List.Induction
import ServiceScaffold.Proofs.Files.Growth

/-!
# Directories that are new

On a disk where everything stands in a directory (`Rooted`), a path that holds no `..` and leads
nowhere can only lead to a directory that is empty once it has been made (`pathExists_join_of_new`):
a path without `..` leads down one name at a time, and making its directories puts nothing but what
it leads through.
-/
namespace ServiceScaffold.Files.Disk

variable {d d' : Disk} {path : String} {l m : Location} {names : List String}

/-! ## Paths that lead down -/

/-- The location that names lead down to, a dot leading nowhere. -/
def down (l : Location) (names : List String) : Location :=
  l ++ names.filter (· ≠ ".")

theorem down_cons (l : Location) (name : String) (names : List String) :
    down l (name :: names) = down (down l [name]) names := by
  simp [down, ← List.filter_append]

theorem down_append (l : Location) (front back : List String) :
    down l (front ++ back) = down (down l front) back := by
  simp [down]

theorem prefix_down (l : Location) (names : List String) : l <+: down l names :=
  List.prefix_append _ _

theorem step_down {name : String} (hup : name ≠ "..") (h : step l name = .ok m) :
    m = down l [name] := by
  unfold step at h
  split at h
  · next hdot =>
    cases h
    simp [down, hdot]
  · next hdot =>
    rw [child] at h
    split at h <;> cases h
    simp [down, hdot]

theorem follow_cons {name : String} (h : d.follow l (name :: names) = .ok m) :
    ∃ next, step l name = .ok next ∧ d.at? next = some .directory ∧ d.follow next names = .ok m := by
  rw [← List.singleton_append, follow_append] at h
  cases hn : d.follow l [name] with
  | error code => rw [hn] at h; cases h
  | ok next =>
    rw [hn] at h
    rw [← List.nil_append [name]] at hn
    obtain ⟨k, hk, hs, he⟩ := follow_concat hn
    cases hk
    exact ⟨next, hs, he, h⟩

theorem follow_down (hup : ".." ∉ names) (h : d.follow l names = .ok m) :
    m = down l names := by
  induction names generalizing l with
  | nil =>
    cases h
    exact (List.append_nil _).symm
  | cons name names ih =>
    rw [List.mem_cons, not_or] at hup
    obtain ⟨next, hs, _, hf⟩ := follow_cons h
    rw [down_cons, ← step_down (Ne.symm hup.1) hs]
    exact ih hup.2 hf

/-- The last name of a path is one more step. -/
theorem locate_of_names {before : List String} {last : String}
    (hn : Path.names path = before ++ [last]) (hs : path.utf8ByteSize ≤ pathLimit) (d : Disk) :
    d.locate path = (d.follow (d.origin path) before).bind (step · last) := by
  unfold locate
  rw [target_of_names hn hs]
  cases d.follow (d.origin path) before with
  | error code => rfl
  | ok directory => exact location_lastTarget directory last

theorem locate_down (hup : ".." ∉ Path.names path) (h : d.locate path = .ok l) :
    l = down (d.origin path) (Path.names path) := by
  obtain ⟨t, ht, hl⟩ := target_of_locate h
  obtain ⟨hne, hs⟩ := target_eq_ok ht
  rcases List.eq_nil_or_concat (Path.names path) with hn | ⟨before, last, hn⟩
  · rw [target_of_names_eq_nil hn hne hs] at ht
    cases ht
    cases hl
    rw [hn]
    exact (List.append_nil _).symm
  · rw [List.concat_eq_append] at hn
    rw [hn, List.mem_append, List.mem_singleton, not_or] at hup
    rw [locate_of_names hn hs] at h
    cases hf : d.follow (d.origin path) before with
    | error code => rw [hf] at h; cases h
    | ok k =>
      rw [hf] at h
      rw [hn, down_append, ← follow_down hup.1 hf]
      exact step_down (Ne.symm hup.2) h

/-! ## Disks with a root -/

/-- What stands in something stands in a directory. -/
def Rooted (d : Disk) : Prop :=
  ∀ l name e, d.at? (l ++ [name]) = some e → d.at? l = some .directory

theorem Rooted.above (h : d.Rooted) {e : Entry} (hm : d.at? m = some e) (hp : l <+: m)
    (hne : l ≠ m) : d.at? l = some .directory := by
  obtain ⟨rest, rfl⟩ := hp
  induction rest using List.reverseRecOn generalizing e with
  | nil => exact absurd (List.append_nil l).symm hne
  | append_singleton rest name ih =>
    rw [← List.append_assoc] at hm
    have habove := h _ _ _ hm
    by_cases hrest : rest = []
    · rwa [hrest, List.append_nil] at habove
    · exact ih habove (by simpa using hrest)

/-- A way down that can be gone on another disk can be gone where its end is a directory. -/
theorem Rooted.follow (h : d.Rooted) (hup : ".." ∉ names) (hf : d'.follow l names = .ok m)
    (hm : d.at? m = some .directory) : d.follow l names = .ok m := by
  induction names generalizing l with
  | nil =>
    cases hf
    rfl
  | cons name names ih =>
    rw [List.mem_cons, not_or] at hup
    obtain ⟨next, hs, _, hnext⟩ := follow_cons hf
    have hdirectory : d.at? next = some .directory := by
      by_cases he : next = m
      · rwa [he]
      · exact h.above hm (follow_down hup.2 hnext ▸ prefix_down next names) he
    simp only [Disk.follow, bind, Except.bind, hs, hdirectory]
    exact ih hup.2 hnext

/-! ## Making directories -/

theorem at?_of_put {l k : Location} {e f : Entry} (h : (d.put l e).at? k = some f) :
    k = l ∨ d.at? k = some f := by
  by_cases hk : k = l
  · exact .inl hk
  · rw [at?_put_of_ne d hk] at h
    exact .inr h

theorem makeDirectory_eq_ok (h : d.makeDirectory path = .ok d') :
    ∃ l, d.locate path = .ok l ∧ d' = d.put l .directory := by
  unfold makeDirectory at h
  split at h
  · cases h
  · split at h
    · cases h
    · cases h
    · next ht =>
      obtain ⟨l, hl, _, rfl⟩ := add_eq_ok h
      exact ⟨l, (locate_of_target ht).trans hl, rfl⟩

/-- All that a disk has in addition stands on the way down to a path. -/
def AddsOnTheWay (d d' : Disk) (path : String) : Prop :=
  ∀ k e, d'.at? k = some e → d.at? k = some e ∨ k <+: down (d.origin path) (Path.names path)

theorem addsOnTheWay_ensureDirectory (d : Disk) (hup : ".." ∉ Path.names path) :
    AddsOnTheWay d (d.ensureDirectory path).2 path := by
  intro k e h
  unfold ensureDirectory at h
  split at h
  · next hmade =>
    obtain ⟨l, hl, rfl⟩ := makeDirectory_eq_ok hmade
    rcases at?_of_put h with rfl | h
    · exact .inr (locate_down hup hl ▸ List.prefix_refl _)
    · exact .inl h
  · split at h
    · split at h <;> exact .inl h
    · exact .inl h

theorem addsOnTheWay_finish {path : List Char} (d : Disk)
    (hup : ".." ∉ Path.names (String.ofList path)) :
    AddsOnTheWay d (makeDirectories.finish path d).2 (String.ofList path) := by
  unfold makeDirectories.finish
  split
  · exact fun k e h => .inl h
  · exact addsOnTheWay_ensureDirectory d hup

theorem not_mem_names_of_parent {head name : String} (hp : Path.Parent head path name)
    (hup : ".." ∉ Path.names path) : ".." ∉ Path.names head := by
  rw [hp.names, List.mem_append, not_or] at hup
  exact hup.1

/-- The way to the directory above is part of the way. -/
theorem AddsOnTheWay.of_parent {head name : String} (hp : Path.Parent head path name)
    (h : AddsOnTheWay d d' head) : AddsOnTheWay d d' path := by
  intro k e hk
  refine (h k e hk).imp_right fun hk => hk.trans ?_
  rw [hp.names, down_append, origin, origin, hp.isAbsolute]
  exact prefix_down _ _

theorem AddsOnTheWay.trans {d₁ d₂ : Disk} (hg : d.Grows d₁) (h : AddsOnTheWay d d₁ path)
    (h' : AddsOnTheWay d₁ d₂ path) : AddsOnTheWay d d₂ path := by
  intro k e hk
  rw [AddsOnTheWay, hg.keepsDirectories.origin] at h'
  rcases h' k e hk with hk | hk
  · exact h k e hk
  · exact .inr hk

/-- The last directory of a path is made in what the directories above it have left. -/
theorem AddsOnTheWay.finish {path : List Char} {head name : String}
    (hp : Path.Parent head (String.ofList path) name) (hg : d.Grows d') (h : AddsOnTheWay d d' head)
    (hup : ".." ∉ Path.names (String.ofList path)) :
    AddsOnTheWay d (makeDirectories.finish path d').2 (String.ofList path) :=
  .trans hg (h.of_parent hp) (addsOnTheWay_finish d' hup)

theorem addsOnTheWay_makeDirectories (d : Disk) (path : List Char)
    (hup : ".." ∉ Path.names (String.ofList path)) :
    AddsOnTheWay d (d.makeDirectories path).2 (String.ofList path) := by
  fun_induction makeDirectories d path with
  | case1 path head hc d₁ he ih =>
    have hp := Path.parent_splitPath hc.1 hc.2.1
    have above := ih (not_mem_names_of_parent hp hup)
    have hg := grows_makeDirectories d head
    rw [he] at above hg
    exact above.finish hp hg hup
  | case2 path head hc p d₁ he ih =>
    have hp := Path.parent_splitPath hc.1 hc.2.1
    have above := ih (not_mem_names_of_parent hp hup)
    have hg := grows_makeDirectories d head
    rw [he] at above hg
    exact above.finish hp hg hup
  | case3 path head hc _ _ ih =>
    have hp := Path.parent_splitPath hc.1 hc.2.1
    exact (ih (not_mem_names_of_parent hp hup)).of_parent hp
  | case4 path head _ => exact addsOnTheWay_ensureDirectory d hup

/-! ## Files in a directory -/

/-- A name of one segment that leads neither nowhere nor up. -/
structure IsPlain (name : String) : Prop where
  ne_empty : name ≠ ""
  ne_dot : name ≠ "."
  ne_up : name ≠ ".."
  slash : '/' ∉ name.toList

/-- A plain name in a directory leads to that name in the place of the directory. -/
theorem locate_join {directory name : String} (hd : directory ≠ "") (hn : IsPlain name)
    (h : d.locate (Path.join directory name) = .ok l) :
    ∃ place, d.follow (d.origin directory) (Path.names directory) = .ok place ∧
      l = place ++ [name] := by
  have hp := Path.parent_join hd hn.ne_empty hn.slash
  obtain ⟨t, ht, _⟩ := target_of_locate h
  rw [locate_of_names hp.names (target_eq_ok ht).2, origin, hp.isAbsolute, ← origin] at h
  cases hf : d.follow (d.origin directory) (Path.names directory) with
  | error code => rw [hf] at h; cases h
  | ok place =>
    rw [hf] at h
    refine ⟨place, rfl, ?_⟩
    rw [step_down hn.ne_up h]
    simp [down, hn.ne_dot]

/-- Nothing stands in a directory that has been made where there was none. -/
theorem pathExists_join_of_new {directory name : String} (hr : d.Rooted) (hd : directory ≠ "")
    (hnew : d.pathExists directory = false) (hup : ".." ∉ Path.names directory)
    (hn : IsPlain name) :
    (d.makeDirectories directory.toList).2.pathExists (Path.join directory name) = false := by
  rw [Bool.eq_false_iff]
  intro hexists
  have hp := Path.parent_join hd hn.ne_empty hn.slash
  obtain ⟨hnul, l, e, hs⟩ := pathExists_iff.1 hexists
  obtain ⟨hl, he⟩ := status_eq_ok hs
  obtain ⟨t, ht, _⟩ := target_of_locate hl
  obtain ⟨place, hf, rfl⟩ := locate_join hd hn hl
  rw [(grows_makeDirectories d _).keepsDirectories.origin] at hf
  have hplace := follow_down hup hf
  have hways := addsOnTheWay_makeDirectories d directory.toList (by rwa [String.ofList_toList])
  rw [String.ofList_toList] at hways
  rcases hways _ _ he with hold | hway
  · -- then the directory itself was there before
    have hfollow := hr.follow hup hf (hr _ _ _ hold)
    have hsize := Nat.le_trans hp.size_le (target_eq_ok ht).2
    refine Bool.false_ne_true (hnew.symm.trans (pathExists_iff.2 ⟨?_, _, _,
      status_of_follow hd hsize hfollow⟩))
    exact hasNul_of_isPrefix hp.isPrefix hnul
  · have hlength := hway.length_le
    rw [← hplace, List.length_append, List.length_singleton] at hlength
    omega

end ServiceScaffold.Files.Disk

import ServiceScaffold.Proofs.Files.Paths

/-!
# Disks that grow

Making files and directories adds to a disk and takes nothing away: `Grows d d'`. Whatever a path
leads to in the smaller disk it leads to in the larger one, so that a file is never replaced, a
path once taken stays taken, and a directory once made stays one. The main statement is that
`makeDirectories` grows a disk and does nothing where the directory stands already.
-/
namespace ServiceScaffold.Files.Disk

/-- All that stands in the one disk stands in the other. -/
structure Grows (d d' : Disk) : Prop where
  current : d'.current = d.current
  kept : ∀ {l : Location} {e : Entry}, d.at? l = some e → d'.at? l = some e

variable {d d' : Disk} {path : String}

theorem Grows.refl (d : Disk) : d.Grows d :=
  ⟨rfl, id⟩

theorem Grows.trans {d₁ d₂ d₃ : Disk} (h : d₁.Grows d₂) (h' : d₂.Grows d₃) : d₁.Grows d₃ :=
  ⟨h'.current.trans h.current, fun hl => h'.kept (h.kept hl)⟩

theorem ne_nil_of_at?_eq_none {l : Location} (h : d.at? l = none) : l ≠ [] := by
  rintro rfl
  simp [at?] at h

theorem grows_put {l : Location} (h : d.at? l = none) (e : Entry) : d.Grows (d.put l e) := by
  refine ⟨rfl, fun {m f} hm => ?_⟩
  have hne : m ≠ l := by
    rintro rfl
    rw [h] at hm
    cases hm
  rw [at?_put_of_ne d hne, hm]

/-! ## Where paths lead -/

theorem follow_append (d : Disk) (l : Location) (front back : List String) :
    d.follow l (front ++ back) = (d.follow l front).bind (d.follow · back) := by
  induction front generalizing l with
  | nil => rfl
  | cons name names ih =>
    rw [List.cons_append, follow, follow]
    cases hs : step l name with
    | error code => rfl
    | ok next =>
      simp only [bind, Except.bind]
      cases d.at? next with
      | none => rfl
      | some e => cases e <;> simp [ih, Except.bind]

/-- Following one name more ends in a directory. -/
theorem follow_concat {l m : Location} {names : List String} {name : String}
    (h : d.follow l (names ++ [name]) = .ok m) :
    ∃ k, d.follow l names = .ok k ∧ step k name = .ok m ∧ d.at? m = some .directory := by
  rw [follow_append] at h
  cases hk : d.follow l names with
  | error code => rw [hk] at h; cases h
  | ok k =>
    rw [hk] at h
    simp only [Except.bind, follow, bind] at h
    cases hs : step k name with
    | error code => rw [hs] at h; cases h
    | ok next =>
      rw [hs] at h
      simp only at h
      cases he : d.at? next with
      | none => rw [he] at h; cases h
      | some e =>
        rw [he] at h
        cases e with
        | directory => cases h; exact ⟨k, rfl, hs, he⟩
        | file _ _ => cases h

/-- Every directory of the one disk is one of the other, and relative paths start where they did. -/
structure KeepsDirectories (d d' : Disk) : Prop where
  current : d'.current = d.current
  directory : ∀ {l : Location}, d.at? l = some .directory → d'.at? l = some .directory

theorem Grows.keepsDirectories (h : d.Grows d') : d.KeepsDirectories d' :=
  ⟨h.current, h.kept⟩

theorem KeepsDirectories.follow (h : d.KeepsDirectories d') {l m : Location} {names : List String}
    (hf : d.follow l names = .ok m) : d'.follow l names = .ok m := by
  induction names generalizing l with
  | nil => exact hf
  | cons name names ih =>
    simp only [Disk.follow, bind, Except.bind] at hf ⊢
    cases hs : step l name with
    | error code => rw [hs] at hf; cases hf
    | ok next =>
      rw [hs] at hf
      simp only at hf ⊢
      cases he : d.at? next with
      | none => rw [he] at hf; cases hf
      | some e =>
        rw [he] at hf
        cases e with
        | directory => rw [h.directory he]; exact ih hf
        | file _ _ => cases hf

theorem KeepsDirectories.origin (h : d.KeepsDirectories d') (path : String) :
    d'.origin path = d.origin path := by
  rw [Disk.origin, Disk.origin, h.current]

/-- What the last name of a path leads to from the directory reached by those before it. -/
def lastTarget (directory : Location) (last : String) : Except ErrorCode Target :=
  if last = "." ∨ last = ".." then (step directory last).map .known
  else .ok (.named directory last)

theorem target_of_names_eq_nil (hn : Path.names path = []) (hne : path ≠ "")
    (hs : path.utf8ByteSize ≤ pathLimit) (d : Disk) :
    d.target path = .ok (.known (d.origin path)) := by
  rw [target, if_neg hne, if_neg (Nat.not_lt.2 hs), hn]
  rfl

theorem target_of_names {before : List String} {last : String}
    (hn : Path.names path = before ++ [last]) (hs : path.utf8ByteSize ≤ pathLimit) (d : Disk) :
    d.target path = (d.follow (d.origin path) before).bind (lastTarget · last) := by
  have hne : path ≠ "" := by
    rintro rfl
    simp [Path.names, Text.segments] at hn
  rw [target, if_neg hne, if_neg (Nat.not_lt.2 hs), hn, List.reverse_append]
  simp only [List.reverse_singleton, List.singleton_append, List.reverse_reverse]
  refine congrArg (Except.bind _) (funext fun directory => ?_)
  rw [lastTarget]
  split
  · cases step directory last <;> rfl
  · rfl

theorem target_eq_ok {t : Target} (h : d.target path = .ok t) :
    path ≠ "" ∧ path.utf8ByteSize ≤ pathLimit := by
  unfold target at h
  split at h
  · cases h
  · next hne =>
    split at h
    · cases h
    · next hs => exact ⟨hne, Nat.not_lt.1 hs⟩

theorem KeepsDirectories.target (h : d.KeepsDirectories d') {t : Target}
    (ht : d.target path = .ok t) : d'.target path = .ok t := by
  obtain ⟨hne, hs⟩ := target_eq_ok ht
  rcases List.eq_nil_or_concat (Path.names path) with hn | ⟨before, last, hn⟩
  · rw [target_of_names_eq_nil hn hne hs] at ht ⊢
    rwa [h.origin]
  · rw [List.concat_eq_append] at hn
    rw [target_of_names hn hs] at ht ⊢
    rw [h.origin]
    cases hf : d.follow (d.origin path) before with
    | error code => rw [hf] at ht; cases ht
    | ok directory => rw [hf] at ht; rw [h.follow hf]; exact ht

theorem locate_of_target {t : Target} (h : d.target path = .ok t) :
    d.locate path = t.location := by
  unfold Disk.locate
  rw [h]
  rfl

theorem target_of_locate {l : Location} (h : d.locate path = .ok l) :
    ∃ t, d.target path = .ok t ∧ t.location = .ok l := by
  cases ht : d.target path with
  | error code =>
    unfold Disk.locate at h
    rw [ht] at h
    cases h
  | ok t => exact ⟨t, rfl, (locate_of_target ht).symm.trans h⟩

theorem KeepsDirectories.locate (h : d.KeepsDirectories d') {l : Location}
    (hl : d.locate path = .ok l) : d'.locate path = .ok l := by
  obtain ⟨t, ht, hl⟩ := target_of_locate hl
  exact (locate_of_target (h.target ht)).trans hl

theorem Grows.locate (h : d.Grows d') {l : Location} (hl : d.locate path = .ok l) :
    d'.locate path = .ok l :=
  h.keepsDirectories.locate hl

theorem status_eq_ok {l : Location} {e : Entry} (h : d.status path = .ok (l, e)) :
    d.locate path = .ok l ∧ d.at? l = some e := by
  unfold status at h
  cases hl : d.locate path with
  | error code => rw [hl] at h; cases h
  | ok m =>
    rw [hl] at h
    simp only [bind, Except.bind] at h
    cases he : d.at? m with
    | none => rw [he] at h; cases h
    | some f =>
      rw [he] at h
      cases f with
      | directory => cases h; exact ⟨rfl, he⟩
      | file bs x =>
        simp only at h
        split at h
        · cases h
        · cases h; exact ⟨rfl, he⟩

theorem Grows.status (h : d.Grows d') {l : Location} {e : Entry}
    (hs : d.status path = .ok (l, e)) : d'.status path = .ok (l, e) := by
  obtain ⟨hl, he⟩ := status_eq_ok hs
  unfold Disk.status at hs ⊢
  rw [hl] at hs
  rw [h.locate hl]
  simp only [bind, Except.bind, he] at hs
  simp only [bind, Except.bind, h.kept he]
  exact hs

theorem pathExists_iff : d.pathExists path = true ↔
    hasNul path = false ∧ ∃ l e, d.status path = .ok (l, e) := by
  unfold pathExists
  split
  · next r hr => simpa [hr] using fun _ => ⟨r.1, r.2, rfl⟩
  · next hr =>
    refine ⟨fun h => by simp at h, ?_⟩
    rintro ⟨_, l, e, hs⟩
    exact absurd hs (hr (l, e))

theorem isDirectory_iff : d.isDirectory path = true ↔
    hasNul path = false ∧ ∃ l, d.status path = .ok (l, .directory) := by
  unfold isDirectory
  split
  · next l hr => simp [hr]
  · next hr =>
    refine ⟨fun h => by simp at h, ?_⟩
    rintro ⟨_, l, hs⟩
    exact absurd hs (hr l)

theorem Grows.pathExists (h : d.Grows d') (hp : d.pathExists path = true) :
    d'.pathExists path = true := by
  obtain ⟨hn, l, e, hs⟩ := pathExists_iff.1 hp
  exact pathExists_iff.2 ⟨hn, l, e, h.status hs⟩

theorem Grows.isDirectory (h : d.Grows d') (hp : d.isDirectory path = true) :
    d'.isDirectory path = true := by
  obtain ⟨hn, l, hs⟩ := isDirectory_iff.1 hp
  exact isDirectory_iff.2 ⟨hn, l, h.status hs⟩

/-! ## Directories on the way -/

theorem status_of_locate {l : Location} (hl : d.locate path = .ok l)
    (he : d.at? l = some .directory) : d.status path = .ok (l, .directory) := by
  unfold status
  rw [hl]
  simp only [bind, Except.bind, he]
  rfl

/-- The last name of a path counts as one more step. -/
theorem location_lastTarget (directory : Location) (last : String) :
    (lastTarget directory last).bind Target.location = step directory last := by
  unfold lastTarget
  split
  · cases step directory last <;> rfl
  · next h =>
    rw [not_or] at h
    rw [step, if_neg h.1, if_neg h.2]
    rfl

/-- A path all of whose names can be followed leads to a directory. -/
theorem status_of_follow {m : Location} (hne : path ≠ "") (hs : path.utf8ByteSize ≤ pathLimit)
    (hf : d.follow (d.origin path) (Path.names path) = .ok m) :
    d.status path = .ok (m, .directory) := by
  rcases List.eq_nil_or_concat (Path.names path) with hn | ⟨before, last, hn⟩
  · rw [hn] at hf
    cases hf
    have ho : d.origin path = [] := by
      rw [origin, Path.isAbsolute_of_names_eq_nil hn hne]
      rfl
    exact status_of_locate (locate_of_target (target_of_names_eq_nil hn hne hs d))
      (by rw [ho]; simp [at?])
  · rw [List.concat_eq_append] at hn
    rw [hn] at hf
    obtain ⟨k, hk, hstep, hm⟩ := follow_concat hf
    refine status_of_locate ?_ hm
    rw [← hstep, ← location_lastTarget]
    unfold locate
    rw [target_of_names hn hs, hk]
    rfl

theorem hasNul_of_isPrefix {head : String} (h : head.toList <+: path.toList)
    (hn : hasNul path = false) : hasNul head = false := by
  unfold hasNul at hn ⊢
  rw [List.contains_eq_mem, decide_eq_false_iff_not] at hn ⊢
  exact fun hm => hn (h.mem hm)

/-- A path that leads somewhere leads through the directories above. -/
theorem isDirectory_of_parent {head name : String} (hp : Path.Parent head path name) {t : Target}
    (ht : d.target path = .ok t) (hn : hasNul path = false) : d.isDirectory head = true := by
  have hs := (target_eq_ok ht).2
  rw [target_of_names hp.names hs] at ht
  cases hf : d.follow (d.origin path) (Path.names head) with
  | error code => rw [hf] at ht; cases ht
  | ok m =>
    rw [origin, hp.isAbsolute, ← origin] at hf
    exact isDirectory_iff.2 ⟨hasNul_of_isPrefix hp.isPrefix hn, m,
      status_of_follow hp.nonempty (Nat.le_trans hp.size_le hs) hf⟩

theorem target_of_status {l : Location} {e : Entry} (h : d.status path = .ok (l, e)) :
    ∃ t, d.target path = .ok t ∧ t.location = .ok l :=
  target_of_locate (status_eq_ok h).1

theorem pathExists_of_isDirectory (h : d.isDirectory path = true) : d.pathExists path = true := by
  obtain ⟨hn, l, hs⟩ := isDirectory_iff.1 h
  exact pathExists_iff.2 ⟨hn, l, .directory, hs⟩

/-! ## Creating -/

theorem add_eq_ok {directory : Location} {name : String} {e : Entry}
    (h : d.add path directory name e = .ok d') :
    ∃ l, child directory name = .ok l ∧ d.at? l = none ∧ d' = d.put l e := by
  unfold add at h
  split at h
  · cases h
  · next l hl =>
    split at h
    · cases h
    · next hn => cases h; exact ⟨l, hl, hn, rfl⟩

theorem add_of_at? {directory l : Location} {name : String} {e f : Entry}
    (hl : child directory name = .ok l) (hf : d.at? l = some f) :
    d.add path directory name e = .error (.refused .exists path) := by
  simp only [add, hl, hf]

theorem grows_add {directory : Location} {name : String} {e : Entry}
    (h : d.add path directory name e = .ok d') : d.Grows d' := by
  obtain ⟨l, _, hn, rfl⟩ := add_eq_ok h
  exact grows_put hn e

theorem grows_makeDirectory (h : d.makeDirectory path = .ok d') : d.Grows d' := by
  unfold makeDirectory at h
  split at h
  · cases h
  · split at h
    · cases h
    · cases h
    · exact grows_add h

/-- Where something stands already no directory is made. -/
theorem makeDirectory_of_pathExists (h : d.pathExists path = true) :
    d.makeDirectory path = .error (.refused .exists path) := by
  obtain ⟨hn, l, e, hs⟩ := pathExists_iff.1 h
  obtain ⟨t, ht, hl⟩ := target_of_status hs
  rw [makeDirectory, hn, ht]
  cases t with
  | known _ => rfl
  | named directory name => exact add_of_at? hl (status_eq_ok hs).2

theorem grows_ensureDirectory (d : Disk) (path : String) : d.Grows (d.ensureDirectory path).2 := by
  unfold ensureDirectory
  split
  · next h => exact grows_makeDirectory h
  · split
    · split <;> exact .refl d
    · exact .refl d

theorem ensureDirectory_of_isDirectory (h : d.isDirectory path = true) :
    d.ensureDirectory path = (none, d) := by
  simp only [ensureDirectory, makeDirectory_of_pathExists (pathExists_of_isDirectory h), h, if_true]

theorem grows_makeDirectories (d : Disk) (path : List Char) :
    d.Grows (d.makeDirectories path).2 := by
  have finish (path : List Char) (d : Disk) : d.Grows (makeDirectories.finish path d).2 := by
    unfold makeDirectories.finish
    split
    · exact .refl d
    · exact grows_ensureDirectory d _
  fun_induction makeDirectories d path with
  | case1 path head _ d' he ih => rw [he] at ih; exact ih.trans (finish path d')
  | case2 path head _ p d' he ih => rw [he] at ih; exact ih.trans (finish path d')
  | case3 path head _ _ _ ih => exact ih
  | case4 path head _ => exact grows_ensureDirectory d _

/-- Where the directory stands, making it changes nothing. -/
theorem makeDirectories_of_isDirectory {path : List Char}
    (h : d.isDirectory (String.ofList path) = true) : d.makeDirectories path = (none, d) := by
  rw [makeDirectories, dif_neg]
  · exact ensureDirectory_of_isDirectory h
  · rintro ⟨ht, hh, he⟩
    obtain ⟨hn, l, hs⟩ := isDirectory_iff.1 h
    obtain ⟨t, ht', _⟩ := target_of_status hs
    have := isDirectory_of_parent (Path.parent_splitPath ht hh) ht' hn
    rw [pathExists_of_isDirectory this] at he
    cases he

/-! ## Files -/

/-- A file is made at a free location, and that is all. -/
theorem create_eq_ok {contents : Bytes} (h : d.create path contents = .ok d') :
    hasNul path = false ∧ endsInSlash path = false ∧ ∃ l, d.locate path = .ok l ∧
      d.at? l = none ∧ d' = d.put l (.file contents false) := by
  unfold create at h
  split at h
  · cases h
  · next hn =>
    split at h
    · cases h
    · cases h
    · next directory name ht =>
      split at h
      · cases h
      · next hs =>
        obtain ⟨l, hl, he, rfl⟩ := add_eq_ok h
        exact ⟨by simpa using hn, by simpa using hs, l, (locate_of_target ht).trans hl, he, rfl⟩

theorem grows_create {contents : Bytes} (h : d.create path contents = .ok d') : d.Grows d' := by
  obtain ⟨_, _, l, _, he, rfl⟩ := create_eq_ok h
  exact grows_put he _

/-- Nothing stood where a file could be made. -/
theorem pathExists_of_create {contents : Bytes} (h : d.create path contents = .ok d') :
    d.pathExists path = false := by
  obtain ⟨_, _, l, hl, he, _⟩ := create_eq_ok h
  rw [Bool.eq_false_iff]
  intro hp
  obtain ⟨_, m, e, hs⟩ := pathExists_iff.1 hp
  obtain ⟨hm, hme⟩ := status_eq_ok hs
  obtain rfl : l = m := Except.ok.inj (hl.symm.trans hm)
  rw [he] at hme
  cases hme

theorem status_of_create {contents : Bytes} (h : d.create path contents = .ok d') :
    ∃ l, d'.status path = .ok (l, .file contents false) := by
  have hg := grows_create h
  obtain ⟨_, hs, l, hl, he, rfl⟩ := create_eq_ok h
  refine ⟨l, ?_⟩
  unfold status
  rw [hg.locate hl]
  simp only [bind, Except.bind, at?_put_self d (ne_nil_of_at?_eq_none he), hs]
  rfl

theorem pathExists_after_create {contents : Bytes} (h : d.create path contents = .ok d') :
    d'.pathExists path = true := by
  obtain ⟨l, hs⟩ := status_of_create h
  exact pathExists_iff.2 ⟨(create_eq_ok h).1, l, _, hs⟩

/-- A path that names a file leads to that name in the directory reached before it. -/
theorem target_of_namesFile (hp : Path.NamesFile path) {t : Target} (h : d.target path = .ok t) :
    ∃ directory, t = .named directory (Path.base path) := by
  obtain ⟨before, hn⟩ := hp.names
  rw [target_of_names hn (target_eq_ok h).2] at h
  cases hf : d.follow (d.origin path) before with
  | error code => rw [hf] at h; cases h
  | ok directory =>
    rw [hf, Except.bind, lastTarget, if_neg (not_or.2 hp.2)] at h
    cases h
    exact ⟨directory, rfl⟩

theorem child_ne_exists {l : Location} {name : String} : child l name ≠ .error .exists := by
  unfold child
  split <;> simp

theorem step_ne_exists {l : Location} {name : String} : step l name ≠ .error .exists := by
  unfold step
  split
  · simp
  · split
    · simp
    · exact child_ne_exists

theorem follow_ne_exists {l : Location} {names : List String} :
    d.follow l names ≠ .error .exists := by
  induction names generalizing l with
  | nil => simp [follow]
  | cons name names ih =>
    simp only [follow, bind, Except.bind]
    cases hs : step l name with
    | error code => exact fun e => step_ne_exists (hs.trans e)
    | ok next =>
      simp only
      cases d.at? next with
      | none => simp
      | some e =>
        cases e with
        | directory => exact ih
        | file _ _ => simp

theorem lastTarget_ne_exists {directory : Location} {last : String} :
    lastTarget directory last ≠ .error .exists := by
  unfold lastTarget
  split
  · cases hs : step directory last with
    | error code => exact fun e => step_ne_exists (hs.trans (by simpa [Except.map] using e))
    | ok l => simp [Except.map]
  · simp

/-- Following a path never fails because something exists. -/
theorem target_ne_exists : d.target path ≠ .error .exists := by
  intro h
  by_cases hne : path = ""
  · rw [target, if_pos hne] at h
    cases h
  by_cases hs : path.utf8ByteSize ≤ pathLimit
  · rcases List.eq_nil_or_concat (Path.names path) with hn | ⟨before, last, hn⟩
    · rw [target_of_names_eq_nil hn hne hs] at h
      cases h
    · rw [List.concat_eq_append] at hn
      rw [target_of_names hn hs] at h
      cases hf : d.follow (d.origin path) before with
      | error code =>
        rw [hf] at h
        cases h
        exact follow_ne_exists hf
      | ok directory =>
        rw [hf] at h
        exact lastTarget_ne_exists h
  · rw [target, if_neg hne, if_pos (Nat.lt_of_not_le hs)] at h
    cases h

/-- Where a file could not be made because something exists, the path was taken. -/
theorem pathExists_of_refused (hp : Path.NamesFile path) {contents : Bytes} {p : String}
    (h : d.create path contents = .error (.refused .exists p)) : d.pathExists path = true := by
  unfold create at h
  split at h
  · cases h
  · next hn =>
    cases ht : d.target path with
    | error code =>
      rw [ht] at h
      cases h
      exact (target_ne_exists ht).elim
    | ok t =>
      obtain ⟨directory, rfl⟩ := target_of_namesFile hp ht
      simp only [ht, hp.endsInSlash, Bool.false_eq_true, if_false, add] at h
      split at h
      · next code hc =>
        cases h
        exact (child_ne_exists hc).elim
      · next l hl =>
        split at h
        · next e he =>
          have hloc : d.locate path = .ok l := (locate_of_target ht).trans hl
          refine pathExists_iff.2 ⟨by simpa using hn, l, e, ?_⟩
          unfold status
          rw [hloc]
          simp only [bind, Except.bind, he, hp.endsInSlash]
          cases e <;> rfl
        · cases h

theorem create_of_pathExists (hp : Path.NamesFile path) (h : d.pathExists path = true)
    (contents : Bytes) : d.create path contents = .error (.refused .exists path) := by
  obtain ⟨hn, l, e, hs⟩ := pathExists_iff.1 h
  obtain ⟨t, ht, hl⟩ := target_of_status hs
  obtain ⟨directory, rfl⟩ := target_of_namesFile hp ht
  rw [create, hn, ht]
  simp only [Bool.false_eq_true, if_false, hp.endsInSlash]
  exact add_of_at? hl (status_eq_ok hs).2

end ServiceScaffold.Files.Disk

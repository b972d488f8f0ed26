import ServiceScaffold.Proofs.Descriptor.Agreement
import ServiceScaffold.Proofs.Generation.NothingLost
import ServiceScaffold.Proofs.Naming.Separators
import ServiceScaffold.Proofs.Schema.Words

/-!
# Files stay in their directory

A run tries one path after the other and stops at the first that fails. It is confined when each of
them is one plain name in the directory of the layer (`IsChild`); then every new file stands right
in the place that the directory leads to. The services of a text keep every run confined, since no
word holds a slash. A compiled file may name its services freely, and a slash in such a name leads
below the directory or, at the front, to the root (`confined_iff`).
-/
namespace ServiceScaffold
open Files Text

/-! ## Names in a directory -/

namespace Files

/-- A directory as what stands in front of the names in it. -/
def asFront (directory : String) : String :=
  if Disk.endsInSlash directory then directory else directory ++ "/"

/-- The path of one plain name in a directory. -/
def IsChild (directory path : String) : Prop :=
  ∃ name, Disk.IsPlain name ∧ path = asFront directory ++ name

theorem Disk.IsPlain.isAbsolute_eq_false {name : String} (h : Disk.IsPlain name) :
    Path.isAbsolute name = false := by
  rw [Path.isAbsolute, decide_eq_false_iff_not]
  exact fun he => h.slash (List.mem_of_mem_head? he)

theorem join_of_relative {directory name : String} (hd : directory ≠ "")
    (hn : Path.isAbsolute name = false) :
    Path.join directory name = asFront directory ++ name := by
  unfold Path.join asFront Disk.endsInSlash
  by_cases hs : directory.toList.getLast? = some '/' <;> simp [hn, hd, hs]

/-- A path joined to a directory is one of its children when it is a plain name, or when it is
absolute and leads back. -/
theorem isChild_join_iff {directory : String} (hd : directory ≠ "") (name : String) :
    IsChild directory (Path.join directory name) ↔
      Disk.IsPlain name ∨ Path.isAbsolute name = true ∧ IsChild directory name := by
  cases ha : Path.isAbsolute name with
  | true =>
    have hplain : ¬ Disk.IsPlain name := fun hp =>
      Bool.false_ne_true (hp.isAbsolute_eq_false.symm.trans ha)
    rw [Path.join, if_pos ha]
    simp [hplain]
  | false =>
    rw [join_of_relative hd ha]
    constructor
    · rintro ⟨plain, hp, he⟩
      rw [(String.append_right_inj _).1 he]
      exact .inl hp
    · rintro (hp | ⟨hp, _⟩)
      · exact ⟨name, hp, rfl⟩
      · cases hp

/-- A child leads to its name in the place of the directory. -/
theorem IsChild.locate {directory path : String} (h : IsChild directory path) (hd : directory ≠ "")
    {d : Disk} {l : Location} (hl : d.locate path = .ok l) :
    ∃ place name, d.follow (d.origin directory) (Path.names directory) = .ok place ∧
      l = place ++ [name] := by
  obtain ⟨name, hp, rfl⟩ := h
  rw [← join_of_relative hd hp.isAbsolute_eq_false] at hl
  obtain ⟨place, hplace, he⟩ := Disk.locate_join hd hp hl
  exact ⟨place, name, hplace, he⟩

/-- Making directories makes nothing else. -/
theorem Disk.entry_of_makeDirectories {d : Disk} {path : List Char} {l : Location} {e : Entry}
    (h : (d.makeDirectories path).2.at? l = some e) : d.at? l = some e ∨ e = .directory := by
  have ensure (d : Disk) (path : String) (h : (d.ensureDirectory path).2.at? l = some e) :
      d.at? l = some e ∨ e = .directory := by
    unfold ensureDirectory at h
    split at h
    · next hmade =>
      obtain ⟨k, _, rfl⟩ := makeDirectory_eq_ok hmade
      by_cases hk : l = k
      · subst hk
        by_cases hroot : l = []
        · subst hroot
          simp [at?] at h
          exact .inr h.symm
        · rw [at?_put_self d hroot] at h
          exact .inr (Option.some.inj h).symm
      · rw [at?_put_of_ne d hk] at h
        exact .inl h
    · split at h
      · split at h <;> exact .inl h
      · exact .inl h
  have finish (path : List Char) (d : Disk)
      (h : (makeDirectories.finish path d).2.at? l = some e) :
      d.at? l = some e ∨ e = .directory := by
    unfold makeDirectories.finish at h
    split at h
    · exact .inl h
    · exact ensure d _ h
  fun_induction makeDirectories d path with
  | case1 path head _ d' he ih =>
    rw [he] at ih
    exact (finish path d' h).elim ih .inr
  | case2 path head _ p d' he ih =>
    rw [he] at ih
    exact (finish path d' h).elim ih .inr
  | case3 path head _ _ _ ih => exact ih h
  | case4 path head _ => exact ensure d _ h

end Files

/-! ## What a run tries -/

/-- The paths at which a plan tries to make a file: one after the other, up to the first that fails
for another reason than that something stands there. -/
def triedPaths (d : Disk) : List (String × String) → List String
  | [] => []
  | (path, text) :: rest =>
    match d.create path (Utf8.encode text) with
    | .ok d => path :: triedPaths d rest
    | .error (.refused .exists _) => path :: triedPaths d rest
    | .error _ => [path]

theorem triedPaths_isPrefix (d : Disk) (plan : List (String × String)) :
    triedPaths d plan <+: plan.map Prod.fst := by
  fun_induction triedPaths d plan with
  | case1 => exact List.prefix_refl _
  | case2 d path text rest d₁ _ ih => exact (List.prefix_cons_inj path).2 ih
  | case3 d path text rest _ _ ih => exact (List.prefix_cons_inj path).2 ih
  | case4 d path text rest _ _ _ => exact (List.prefix_cons_inj path).2 List.nil_prefix

/-- What the first output of a plan does: its file is made and the others follow, they follow as
well where something stands already, or the plan ends here. -/
theorem writePlan_cons_cases (d : Disk) (path text : String) (rest : List (String × String)) :
    (∃ d₁ report, d.create path (Utf8.encode text) = .ok d₁ ∧
      triedPaths d ((path, text) :: rest) = path :: triedPaths d₁ rest ∧
      writePlan d ((path, text) :: rest) =
        ((writePlan d₁ rest).1.map report, (writePlan d₁ rest).2)) ∨
    (∃ report, triedPaths d ((path, text) :: rest) = path :: triedPaths d rest ∧
      writePlan d ((path, text) :: rest) =
        ((writePlan d rest).1.map report, (writePlan d rest).2)) ∨
    ∃ e, d.create path (Utf8.encode text) = .error e ∧
      triedPaths d ((path, text) :: rest) = [path] ∧
      writePlan d ((path, text) :: rest) = (.error e, d) := by
  cases hc : d.create path (Utf8.encode text) with
  | ok d₁ =>
    exact .inl ⟨d₁, fun w => { w with generated := path :: w.generated }, rfl,
      by simp only [triedPaths, hc], by simp only [writePlan, hc]⟩
  | error e =>
    cases e with
    | nulInPath =>
      exact .inr (.inr ⟨_, rfl, by simp only [triedPaths, hc], by simp only [writePlan, hc]⟩)
    | refused code p =>
      cases code with
      | «exists» =>
        exact .inr (.inl ⟨fun w => { w with skipped := path :: w.skipped },
          by simp only [triedPaths, hc], by simp only [writePlan, hc]⟩)
      | _ =>
        exact .inr (.inr ⟨_, rfl, by simp only [triedPaths, hc], by simp only [writePlan, hc]⟩)

theorem triedPaths_of_ok {d : Disk} {plan : List (String × String)} {w : Written}
    (h : (writePlan d plan).1 = .ok w) : triedPaths d plan = plan.map Prod.fst := by
  induction plan generalizing d w with
  | nil => rfl
  | cons out rest ih =>
    obtain ⟨path, text⟩ := out
    have tail {d₁ : Disk} {report : Written → Written}
        (h : (writePlan d₁ rest).1.map report = .ok w) : triedPaths d₁ rest = rest.map Prod.fst := by
      cases hr : (writePlan d₁ rest).1 with
      | error e => rw [hr] at h; cases h
      | ok w' => exact ih hr
    rcases writePlan_cons_cases d path text rest with ⟨d₁, report, _, ht, hw⟩ | ⟨report, ht, hw⟩ |
      ⟨e, _, _, hw⟩
    · rw [hw] at h
      rw [ht, tail h, List.map_cons]
    · rw [hw] at h
      rw [ht, tail h, List.map_cons]
    · rw [hw] at h
      cases h

/-- A new entry stands where one of the paths tried leads. -/
theorem entry_of_writePlan {d : Disk} {plan : List (String × String)} {l : Location} {e : Entry}
    (h : (writePlan d plan).2.at? l = some e) :
    d.at? l = some e ∨ ∃ path ∈ triedPaths d plan, d.locate path = .ok l := by
  induction plan generalizing d with
  | nil => exact .inl h
  | cons out rest ih =>
    obtain ⟨path, text⟩ := out
    rcases writePlan_cons_cases d path text rest with ⟨d₁, _, made, ht, hw⟩ | ⟨_, ht, hw⟩ |
      ⟨_, _, _, hw⟩
    · rw [hw] at h
      rw [ht]
      rcases ih h with h | ⟨p, hp, hl⟩
      · obtain ⟨_, _, k, hk, _, rfl⟩ := Disk.create_eq_ok made
        rcases Disk.at?_of_put h with rfl | h
        · exact .inr ⟨path, List.mem_cons_self, hk⟩
        · exact .inl h
      · exact .inr ⟨p, List.mem_cons_of_mem _ hp, (Disk.keepsDirectories_of_create made).locate hl⟩
    · rw [hw] at h
      rw [ht]
      exact (ih h).imp_right fun ⟨p, hp, hl⟩ => ⟨p, List.mem_cons_of_mem _ hp, hl⟩
    · rw [hw] at h
      exact .inl h

/-- The paths that a run tries. It tries none when its directory could not be made. -/
def Layer.tried (l : Layer) (o : Options) (services : List Model.Service) (d : Disk) :
    List String :=
  match d.makeDirectories (l.directory o).toList with
  | (some _, _) => []
  | (none, d) => triedPaths d (l.plan o services)

/-- What a run does: it fails at its directory, or carries its plan as far as it goes. -/
theorem generate_cases (l : Layer) (o : Options) (services : List Model.Service) (d : Disk) :
    (∃ e, l.tried o services d = [] ∧ (generate l services o d).result = .error e ∧
      (generate l services o d).disk = l.start o d) ∨
    (l.tried o services d = triedPaths (l.start o d) (l.plan o services) ∧
      (generate l services o d).result = (writePlan (l.start o d) (l.plan o services)).1 ∧
      (generate l services o d).disk = (writePlan (l.start o d) (l.plan o services)).2) := by
  rcases hm : d.makeDirectories (l.directory o).toList with ⟨_ | e, d₁⟩
  · refine .inr ⟨?_, ?_, ?_⟩ <;> simp only [Layer.tried, Layer.start, generate, hm]
  · refine .inl ⟨e, ?_, ?_, ?_⟩ <;> simp only [Layer.tried, Layer.start, generate, hm]

/-- A run that returns has tried all paths of its plan. -/
theorem Layer.tried_of_ok {l : Layer} {o : Options} {services : List Model.Service} {d : Disk}
    {w : Written} (h : (generate l services o d).result = .ok w) :
    l.tried o services d = (l.plan o services).map Prod.fst := by
  rcases generate_cases l o services d with ⟨e, _, hr, _⟩ | ⟨ht, hr, _⟩
  · rw [hr] at h
    cases h
  · rw [ht]
    exact triedPaths_of_ok (hr.symm.trans h)

/-! ## Confined runs -/

/-- The path of a service's file. -/
def Layer.servicePath (l : Layer) (o : Options) (s : Model.Service) : String :=
  Path.join (l.directory o) (l.serviceFileName s)

/-- Every path that the run tries is a child of its directory, and every new file stands right in
the place that the directory leads to. -/
structure Confined (l : Layer) (o : Options) (services : List Model.Service) (d : Disk) : Prop where
  children : ∀ path ∈ l.tried o services d, IsChild (l.directory o) path
  files : ∀ location contents executable,
    (generate l services o d).disk.at? location = some (.file contents executable) →
      d.at? location = some (.file contents executable) ∨
        ∃ place name, (l.start o d).follow (d.origin (l.directory o))
          (Path.names (l.directory o)) = .ok place ∧ location = place ++ [name]

section Runs

variable {l : Layer} {o : Options} {services : List Model.Service} {d : Disk}

theorem isPlain_serviceFileName_iff {s : Model.Service} :
    Disk.IsPlain (l.serviceFileName s) ↔ '/' ∉ s.name.toList := by
  rw [← not_congr (Naming.slash_mem_lower_iff s.name)]
  constructor
  · intro hp hm
    refine hp.slash ?_
    unfold Layer.serviceFileName
    rw [String.toList_append]
    exact List.mem_append_left _ hm
  · intro hm
    cases l with
    | domain => exact Layer.isPlain_append hm (by decide) (by decide)
    | persistence => exact Layer.isPlain_append hm (by decide) (by decide)

theorem isPlain_modelFileName : Disk.IsPlain Layer.modelFileName :=
  ⟨by decide, by decide, by decide, by decide⟩

theorem mem_tried {path : String} (h : path ∈ l.tried o services d) :
    (∃ s ∈ services, path = l.servicePath o s) ∨
      path = Path.join (l.directory o) Layer.modelFileName := by
  have hplan : path ∈ (l.plan o services).map Prod.fst := by
    rcases generate_cases l o services d with ⟨_, ht, _⟩ | ⟨ht, _⟩
    · rw [ht] at h
      cases h
    · rw [ht] at h
      exact (triedPaths_isPrefix _ _).mem h
  rw [Layer.paths_plan, List.mem_append] at hplan
  rcases hplan with hm | hm
  · obtain ⟨s, hs, he⟩ := List.mem_map.1 hm
    exact .inl ⟨s, hs, he.symm⟩
  · split at hm
    · cases hm
    · exact .inr (List.mem_singleton.1 hm)

/-- A new file stands where one of the paths tried leads, once the directory has been made. -/
theorem file_of_generate {location : Location} {contents : Bytes} {executable : Bool}
    (h : (generate l services o d).disk.at? location = some (.file contents executable)) :
    d.at? location = some (.file contents executable) ∨
      ∃ path ∈ l.tried o services d, (l.start o d).locate path = .ok location := by
  have made {e : Entry} (h : (l.start o d).at? location = some e) (he : e ≠ .directory) :
      d.at? location = some e :=
    (Disk.entry_of_makeDirectories h).resolve_right he
  rcases generate_cases l o services d with ⟨_, _, _, hd⟩ | ⟨ht, _, hd⟩
  · rw [hd] at h
    exact .inl (made h nofun)
  · rw [hd] at h
    rw [ht]
    exact (entry_of_writePlan h).imp_left fun h => made h nofun

theorem confined_of_children
    (h : ∀ path ∈ l.tried o services d, IsChild (l.directory o) path) :
    Confined l o services d := by
  refine ⟨h, ?_⟩
  intro location contents executable hnew
  rcases file_of_generate hnew with hold | ⟨path, hpath, hl⟩
  · exact .inl hold
  · obtain ⟨place, name, hplace, he⟩ := (h path hpath).locate (l.directory_ne_empty o) hl
    have horigin : (l.start o d).origin (l.directory o) = d.origin (l.directory o) :=
      (Disk.grows_makeDirectories d _).keepsDirectories.origin _
    rw [horigin] at hplace
    exact .inr ⟨place, name, hplace, he⟩

theorem isChild_servicePath_iff {s : Model.Service} :
    IsChild (l.directory o) (l.servicePath o s) ↔ '/' ∉ s.name.toList ∨
      Path.isAbsolute (l.serviceFileName s) = true ∧
        IsChild (l.directory o) (l.serviceFileName s) := by
  rw [Layer.servicePath, isChild_join_iff (l.directory_ne_empty o), isPlain_serviceFileName_iff]

/-- Whether a run is confined is a matter of the services whose files it tries to make. -/
theorem confined_iff :
    Confined l o services d ↔ ∀ s ∈ services, l.servicePath o s ∈ l.tried o services d →
      '/' ∉ s.name.toList ∨ Path.isAbsolute (l.serviceFileName s) = true ∧
        IsChild (l.directory o) (l.serviceFileName s) := by
  constructor
  · intro h s _ hs
    exact isChild_servicePath_iff.1 (h.children _ hs)
  · intro h
    refine confined_of_children ?_
    intro path hpath
    rcases mem_tried hpath with ⟨s, hs, rfl⟩ | rfl
    · exact isChild_servicePath_iff.2 (h s hs hpath)
    · exact (isChild_join_iff (l.directory_ne_empty o) _).2 (.inl isPlain_modelFileName)

end Runs

/-! ## Names of services -/

theorem slash_not_mem_of_ofText {text source : String} {e : Extraction}
    (h : Extraction.ofText text source = .ok e) : ∀ s ∈ e.services, '/' ∉ s.name.toList := by
  obtain ⟨file, hf, hs⟩ := Model.services_of_ofText h
  intro s hm
  rw [hs] at hm
  obtain ⟨declared, hd, rfl⟩ := List.mem_map.1 hm
  show '/' ∉ (Naming.declared declared.name).toList
  rw [Naming.slash_mem_declared_iff]
  intro hslash
  have hword := ((Schema.spelled_of_ofText hf).services declared hd).name
  exact hword.slash_not_mem ((List.takeWhile_prefix _).mem hslash)

theorem slash_mem_of_ofCompiled {file : Descriptor.File} {source : String} {e : Extraction}
    (h : Extraction.ofCompiled file source = .ok e) :
    List.Forall₂ (fun compiled s =>
      '/' ∈ s.name.toList ↔ '/' ∈ beforeFirst '.' compiled.name.toList) file.services e.services := by
  have hnames : List.Forall₂ Eq (file.services.map fun compiled => Naming.declared compiled.name)
      (e.services.map Model.Service.name) := by
    rw [List.forall₂_eq_eq_eq]
    exact (Descriptor.names_of_ofCompiled h).symm
  rw [List.forall₂_map_left_iff, List.forall₂_map_right_iff] at hnames
  refine hnames.imp ?_
  intro compiled s he
  rw [← he]
  exact Naming.slash_mem_declared_iff compiled.name

/-- Every run with the services of a text is confined. One with those of a compiled file is confined
exactly when no service whose file it tries has a slash in front of the first dot of its name, unless
that makes the path absolute and leads back to the directory. -/
theorem extraction_confined (l : Layer) (o : Options) (d : Disk) :
    (∀ text source e, Extraction.ofText text source = .ok e → Confined l o e.services d) ∧
    ∀ file source e, Extraction.ofCompiled file source = .ok e →
      List.Forall₂ (fun compiled s => '/' ∈ s.name.toList ↔
        '/' ∈ beforeFirst '.' compiled.name.toList) file.services e.services ∧
      (Confined l o e.services d ↔
        ∀ s ∈ e.services, l.servicePath o s ∈ l.tried o e.services d →
          '/' ∉ s.name.toList ∨ Path.isAbsolute (l.serviceFileName s) = true ∧
            IsChild (l.directory o) (l.serviceFileName s)) := by
  constructor
  · intro text source e h
    exact confined_iff.2 fun s hs _ => .inl (slash_not_mem_of_ofText h s hs)
  · intro file source e h
    exact ⟨slash_mem_of_ofCompiled h, confined_iff⟩

/-- A compiled file with a service of the given name and nothing else. -/
def compiledService (name : String) : Descriptor.File :=
  ⟨"s.proto", "", [], [], [], [], [], [⟨name, []⟩], none, ""⟩

/-- What is extracted from it. -/
def bareService (name : String) : Model.Service :=
  ⟨name, "", "", [], [], [], "s.proto"⟩

def intoOut : Options := { Options.default with directory := "out" }

/-- A disk with a directory below the one that is written to. -/
def subBelowOut : Disk :=
  ⟨[(["out"], .directory), (["out", "sub"], .directory)], []⟩

/-- One compiled service has its file made below the directory, another one has it made in the
root. -/
theorem slash_leaves_directory :
    (Extraction.ofCompiled (compiledService "sub/x") "" =
        .ok ⟨[bareService "Sub/x"], [], "s.proto"⟩ ∧
      ((generate .domain [bareService "Sub/x"] intoOut subBelowOut).disk.at?
        ["out", "sub", "x.go"]).isSome = true ∧
      ¬ Confined .domain intoOut [bareService "Sub/x"] subBelowOut) ∧
    Extraction.ofCompiled (compiledService "/x") "" = .ok ⟨[bareService "/x"], [], "s.proto"⟩ ∧
      ((generate .domain [bareService "/x"] intoOut subBelowOut).disk.at? ["x.go"]).isSome = true ∧
      ¬ Confined .domain intoOut [bareService "/x"] subBelowOut := by
  refine ⟨⟨by with_unfolding_all rfl, by decide +kernel, ?_⟩, by with_unfolding_all rfl,
    by decide +kernel, ?_⟩
  · intro h
    rcases confined_iff.1 h _ List.mem_cons_self (by decide +kernel) with hs | ⟨ha, _⟩
    · exact absurd hs (by decide)
    · exact absurd ha (by decide +kernel)
  · intro h
    rcases confined_iff.1 h _ List.mem_cons_self (by decide +kernel) with hs | ⟨_, name, _, he⟩
    · exact absurd hs (by decide)
    · have hfront : asFront (Layer.domain.directory intoOut) = "out/" := by decide +kernel
      have hfile : Layer.domain.serviceFileName (bareService "/x") = "/x.go" := by decide +kernel
      rw [hfront, hfile, ← String.toList_inj, String.toList_append] at he
      cases he

end ServiceScaffold

import ServiceScaffold.Proofs.Files.NewDirectory
import ServiceScaffold.Proofs.Generation.TypeNames

/-!
# Which runs lose nothing

A run skips an output whose path is taken, also when an output of the same run has taken it. Nothing
is lost exactly when every output has a place of its own (`OwnPlaces`), which in a new directory is a
matter of names: the services have to differ without regard to case, and in the domain layer none
may be called like the models (`generate_losesNothing_iff`).
-/
namespace ServiceScaffold
open Files

/-! ## Places of their own -/

namespace Files.Disk

variable {d d' : Disk} {path q : String} {contents : Bytes}

/-- A new file is no directory. -/
theorem keepsDirectories_of_create (h : d.create path contents = .ok d') :
    d'.KeepsDirectories d := by
  obtain ⟨_, _, l, _, hfree, rfl⟩ := create_eq_ok h
  refine ⟨rfl, fun {k} hk => ?_⟩
  rcases at?_of_put hk with rfl | hk'
  · rw [at?_put_self d (ne_nil_of_at?_eq_none hfree)] at hk
    cases hk
  · exact hk'

/-- What is taken behind a new file was taken before, or leads to the file. -/
theorem taken_of_create (h : d.create path contents = .ok d') (hq : d'.pathExists q = true) :
    d.pathExists q = true ∨ ∃ l, d.locate path = .ok l ∧ d.locate q = .ok l := by
  have hback := keepsDirectories_of_create h
  obtain ⟨hnul, m, e, hs⟩ := pathExists_iff.1 hq
  obtain ⟨hm, he⟩ := status_eq_ok hs
  obtain ⟨_, _, l, hl, _, rfl⟩ := create_eq_ok h
  rcases at?_of_put he with rfl | he'
  · exact .inr ⟨m, hl, hback.locate hm⟩
  · refine .inl (pathExists_iff.2 ⟨hnul, m, e, ?_⟩)
    unfold status at hs ⊢
    rw [hm] at hs
    rw [hback.locate hm]
    simp only [bind, Except.bind, he] at hs
    simp only [bind, Except.bind, he']
    exact hs

/-- Nothing stands where the paths lead, and no two of them lead to one place. -/
def OwnPlaces (d : Disk) (paths : List String) : Prop :=
  (∀ p ∈ paths, d.pathExists p = false) ∧
    paths.Pairwise fun p q => ∀ l, d.locate p = .ok l → d.locate q ≠ .ok l

theorem OwnPlaces.of_create {paths : List String} (h : OwnPlaces d (path :: paths))
    (made : d.create path contents = .ok d') : OwnPlaces d' paths := by
  obtain ⟨free, apart⟩ := h
  obtain ⟨first, apart⟩ := List.pairwise_cons.1 apart
  have hback := keepsDirectories_of_create made
  refine ⟨fun q hq => Bool.eq_false_iff.2 fun htaken => ?_, apart.imp fun hpq l hp hq => ?_⟩
  · rcases taken_of_create made htaken with hold | ⟨l, hl, hql⟩
    · exact Bool.false_ne_true ((free q (List.mem_cons_of_mem _ hq)).symm.trans hold)
    · exact first q hq l hl hql
  · exact hpq l (hback.locate hp) (hback.locate hq)

theorem locate_of_pathExists (h : d.pathExists path = true) : ∃ l, d.locate path = .ok l := by
  obtain ⟨_, l, e, hs⟩ := pathExists_iff.1 h
  exact ⟨l, (status_eq_ok hs).1⟩

end Files.Disk

/-! ## Walks -/

section Walks

variable {d d' : Disk} {plan : List (String × String)} {outcomes : List Outcome}

theorem Walk.keepsDirectories (h : Walk d plan outcomes d') : d'.KeepsDirectories d := by
  induction h with
  | stop d _ => exact (Disk.Grows.refl d).keepsDirectories
  | written _ made _ ih =>
    have hback := Disk.keepsDirectories_of_create made
    exact ⟨hback.current.trans ih.current, fun h => hback.directory (ih.directory h)⟩
  | skipped _ _ ih => exact ih

/-- Outputs with places of their own are all written. -/
theorem Walk.all_written (h : Walk d plan outcomes d') (hl : outcomes.length = plan.length)
    (ho : d.OwnPlaces (plan.map Prod.fst)) :
    withOutcome .written plan outcomes = plan ∧ withOutcome .skipped plan outcomes = [] := by
  induction h with
  | stop =>
    rw [List.eq_nil_of_length_eq_zero hl.symm]
    simp
  | written _ made _ ih =>
    obtain ⟨hw, hs⟩ := ih (Nat.succ.inj hl) (ho.of_create made)
    simp [hw, hs]
  | skipped taken _ _ =>
    exact absurd taken (Bool.eq_false_iff.1 (ho.1 _ List.mem_cons_self))

/-- Every path of the plan is reported as generated, and every text of it stands in a file of its
own. -/
structure LosesNothing (plan : List (String × String)) (w : Written) (after : Disk) : Prop where
  generated : w.generated = plan.map Prod.fst
  skipped : w.skipped = []
  contents : ∀ out ∈ plan, ∃ l, after.status out.1 = .ok (l, .file (Text.Utf8.encode out.2) false)
  own : (plan.map Prod.fst).Pairwise fun p q => after.locate p ≠ after.locate q

theorem Walk.losesNothing_iff (h : Walk d plan outcomes d') (hl : outcomes.length = plan.length) :
    LosesNothing plan (.ofOutcomes plan outcomes) d' ↔ d.OwnPlaces (plan.map Prod.fst) := by
  constructor
  · intro hn
    refine ⟨fun p hp => ?_, hn.own.imp fun hne l hp hq => hne ?_⟩
    · rw [← hn.generated] at hp
      obtain ⟨out, ho, rfl⟩ := List.mem_map.1 hp
      exact h.free out ho
    · exact (h.grows.locate hp).trans (h.grows.locate hq).symm
  · intro ho
    obtain ⟨hw, hs⟩ := h.all_written hl ho
    have hcontents := h.contents
    rw [hw] at hcontents
    refine ⟨by rw [Written.ofOutcomes, hw], by rw [Written.ofOutcomes, hs]; rfl, hcontents, ?_⟩
    refine ho.2.imp_of_mem fun {p q} hp _ hpq he => ?_
    obtain ⟨out, hout, rfl⟩ := List.mem_map.1 hp
    obtain ⟨l, hst⟩ := hcontents out hout
    have hloc := (Disk.status_eq_ok hst).1
    have hback := h.keepsDirectories
    exact hpq l (hback.locate hloc) (hback.locate (he ▸ hloc))

end Walks

/-! ## File names -/

namespace Layer

def fileNames (l : Layer) (services : List Model.Service) : List String :=
  services.map l.serviceFileName ++ if services = [] then [] else [modelFileName]

theorem paths_plan_eq_map (l : Layer) (o : Options) (services : List Model.Service) :
    (l.plan o services).map Prod.fst =
      (l.fileNames services).map (Path.join (l.directory o)) := by
  rw [paths_plan, fileNames, List.map_append, List.map_map]
  split <;> rfl

/-- The services differ without regard to case, and in the domain layer none is called like the
models. -/
structure FileNamesApart (l : Layer) (services : List Model.Service) : Prop where
  apart : (services.map fun s => Naming.lower s.name).Nodup
  models : l = domain → ∀ s ∈ services, Naming.lower s.name ≠ "model"

theorem isPlain_append {front suffix : String} (hf : '/' ∉ front.toList)
    (hs : '/' ∉ suffix.toList) (hl : 2 < suffix.toList.length) : Disk.IsPlain (front ++ suffix) := by
  have hlength : 2 < (front ++ suffix).toList.length := by
    rw [String.toList_append, List.length_append]
    omega
  refine ⟨?_, ?_, ?_, ?_⟩
  · exact fun e => by simp [e] at hlength
  · exact fun e => by simp [e] at hlength
  · exact fun e => by simp [e] at hlength
  · rw [String.toList_append, List.mem_append, not_or]
    exact ⟨hf, hs⟩

theorem isPlain_of_mem_fileNames {l : Layer} {services : List Model.Service}
    (hs : ∀ s ∈ services, '/' ∉ (Naming.lower s.name).toList) {name : String}
    (hn : name ∈ l.fileNames services) : Disk.IsPlain name := by
  rw [fileNames, List.mem_append] at hn
  rcases hn with hn | hn
  · obtain ⟨s, hmem, rfl⟩ := List.mem_map.1 hn
    cases l with
    | domain => exact isPlain_append (hs s hmem) (by decide) (by decide)
    | persistence => exact isPlain_append (hs s hmem) (by decide) (by decide)
  · split at hn
    · cases hn
    · rw [List.mem_singleton.1 hn]
      exact ⟨by decide, by decide, by decide, by decide⟩

theorem serviceFileName_inj {l : Layer} {s t : Model.Service} :
    l.serviceFileName s = l.serviceFileName t ↔ Naming.lower s.name = Naming.lower t.name := by
  cases l <;> simp [serviceFileName, ← String.toList_inj]

theorem serviceFileName_eq_model_iff {l : Layer} {s : Model.Service} :
    l.serviceFileName s = modelFileName ↔ l = domain ∧ Naming.lower s.name = "model" := by
  cases l with
  | domain =>
    have hcancel : Naming.lower s.name ++ ".go" = "model" ++ ".go" ↔
        Naming.lower s.name = "model" :=
      String.append_left_inj ".go"
    exact hcancel.trans (by simp)
  | persistence =>
    refine iff_of_false (fun h => ?_) (by simp)
    have hend := congrArg (fun name : String => name.toList.reverse.take 4) h
    simp [serviceFileName, modelFileName] at hend

theorem fileNames_nodup_iff (l : Layer) (services : List Model.Service) :
    (l.fileNames services).Nodup ↔ l.FileNamesApart services := by
  have hservices : (services.map l.serviceFileName).Nodup ↔
      (services.map fun s => Naming.lower s.name).Nodup := by
    simp only [List.Nodup, List.pairwise_map, ne_eq, serviceFileName_inj]
  rw [fileNames, List.nodup_append, hservices]
  constructor
  · rintro ⟨hn, _, hm⟩
    refine ⟨hn, fun hl s hs he => ?_⟩
    refine hm _ (List.mem_map_of_mem hs) modelFileName ?_ (serviceFileName_eq_model_iff.2 ⟨hl, he⟩)
    rw [if_neg (List.ne_nil_of_mem hs)]
    exact List.mem_singleton_self _
  · rintro ⟨hn, hm⟩
    refine ⟨hn, by split <;> simp, ?_⟩
    intro name hname model hmodel he
    obtain ⟨s, hs, rfl⟩ := List.mem_map.1 hname
    rw [if_neg (List.ne_nil_of_mem hs), List.mem_singleton] at hmodel
    obtain ⟨hl, hlower⟩ := serviceFileName_eq_model_iff.1 (he.trans hmodel)
    exact hm hl s hs hlower

end Layer

/-! ## New directories -/

/-- In a directory that has been made where there was none, plain names that differ lead to places of
their own. -/
theorem ownPlaces_join_iff {d : Disk} {directory : String} {names : List String} (hr : d.Rooted)
    (hd : directory ≠ "") (hnew : d.pathExists directory = false)
    (hup : ".." ∉ Path.names directory) (hplain : ∀ name ∈ names, Disk.IsPlain name)
    (hlocated : ∀ name ∈ names, ∃ l,
      (d.makeDirectories directory.toList).2.locate (Path.join directory name) = .ok l) :
    (d.makeDirectories directory.toList).2.OwnPlaces (names.map (Path.join directory)) ↔
      names.Nodup := by
  rw [Disk.OwnPlaces, List.pairwise_map, List.Nodup]
  constructor
  · rintro ⟨_, apart⟩
    refine apart.imp_of_mem fun {a b} ha _ hab he => ?_
    obtain ⟨l, hl⟩ := hlocated a ha
    exact hab l hl (he ▸ hl)
  · intro hn
    refine ⟨fun p hp => ?_, hn.imp_of_mem fun {a b} ha hb hab l hla hlb => hab ?_⟩
    · obtain ⟨name, hname, rfl⟩ := List.mem_map.1 hp
      exact Disk.pathExists_join_of_new hr hd hnew hup (hplain name hname)
    · obtain ⟨place, hplace, rfl⟩ := Disk.locate_join hd (hplain a ha) hla
      obtain ⟨place', hplace', he⟩ := Disk.locate_join hd (hplain b hb) hlb
      obtain rfl := Except.ok.inj (hplace.symm.trans hplace')
      exact List.singleton_inj.1 (List.append_cancel_left he)

/-! ## Runs -/

/-- A run that returns has lost nothing exactly when every output has a place of its own. In a new
directory this is so exactly when the names of the files are apart. -/
theorem generate_losesNothing_iff {l : Layer} {services : List Model.Service} {o : Options}
    {d : Disk} {w : Written} (hw : (generate l services o d).result = .ok w) :
    (LosesNothing (l.plan o services) w (generate l services o d).disk ↔
      (l.start o d).OwnPlaces ((l.plan o services).map Prod.fst)) ∧
    (d.Rooted → d.pathExists (l.directory o) = false → ".." ∉ Path.names (l.directory o) →
      (∀ s ∈ services, '/' ∉ (Naming.lower s.name).toList) →
      (LosesNothing (l.plan o services) w (generate l services o d).disk ↔
        l.FileNamesApart services)) := by
  obtain ⟨outcomes, walk, ho⟩ := generate_walk l services o d
  obtain ⟨hl, rfl⟩ := ho w hw
  refine ⟨walk.losesNothing_iff hl, fun hr hnew hup hs => ?_⟩
  rw [walk.losesNothing_iff hl, l.paths_plan_eq_map, ← l.fileNames_nodup_iff]
  refine ownPlaces_join_iff hr (l.directory_ne_empty o) hnew hup
    (fun _ => Layer.isPlain_of_mem_fileNames hs) fun name hname => ?_
  have hmem : Path.join (l.directory o) name ∈ (l.plan o services).map Prod.fst := by
    rw [l.paths_plan_eq_map]
    exact List.mem_map_of_mem hname
  obtain ⟨out, hout, he⟩ := List.mem_map.1 hmem
  obtain ⟨place, hplace⟩ := Disk.locate_of_pathExists (walk.taken hl out hout)
  exact ⟨place, walk.keepsDirectories.locate (he ▸ hplace)⟩

theorem rooted_nothingYet : nothingYet.Rooted := by
  intro l name e h
  simp [Disk.at?, nothingYet] at h

theorem generate_losesNothing_twoServices :
    ∃ e w, Extraction.ofDeclarations (twoServices "FindRequest") "ab.proto" = .ok e ∧
      (generate .persistence e.services .default nothingYet).result = .ok w ∧
      LosesNothing (Layer.persistence.plan .default e.services) w
        (generate .persistence e.services .default nothingYet).disk := by
  obtain ⟨e, he, hslash, hnames, hreturns⟩ :
      ∃ e, Extraction.ofDeclarations (twoServices "FindRequest") "ab.proto" = .ok e ∧
        (∀ s ∈ e.services, '/' ∉ (Naming.lower s.name).toList) ∧
        (e.services.map fun s => Naming.lower s.name).Nodup ∧
        (generate .persistence e.services .default nothingYet).result.toOption.isSome = true :=
    ⟨_, rfl, by decide +kernel, by decide +kernel, by decide +kernel⟩
  cases hw : (generate .persistence e.services .default nothingYet).result with
  | error fault =>
    rw [hw] at hreturns
    cases hreturns
  | ok w =>
    have hnew := (generate_losesNothing_iff hw).2 rooted_nothingYet (by decide +kernel)
      (by decide +kernel) hslash
    exact ⟨e, w, he, hw, hnew.2 ⟨hnames, nofun⟩⟩

/-- A service called like the models leaves no room for them, and of two services that differ in the
case of a letter one is left out. -/
theorem namesakes_lose_files :
    (∃ e, Extraction.ofText "service Model { }" "m.proto" = .ok e ∧
      nothingYet.pathExists (Layer.domain.directory .default) = false ∧
      (generate .domain e.services .default nothingYet).result.toOption =
        some ⟨["internal/biz/model.go"], ["internal/biz/model.go"]⟩) ∧
    ∃ e, Extraction.ofText "service Item { } service item { }" "i.proto" = .ok e ∧
      nothingYet.pathExists (Layer.persistence.directory .default) = false ∧
      (generate .persistence e.services .default nothingYet).result.toOption =
        some ⟨["internal/data/item_repo.go", "internal/data/model.go"],
          ["internal/data/item_repo.go"]⟩ := by
  refine ⟨⟨_, by with_unfolding_all rfl, by decide +kernel, by decide +kernel⟩,
    _, by with_unfolding_all rfl, by decide +kernel, by decide +kernel⟩

end ServiceScaffold

import ServiceScaffold.Generation
import ServiceScaffold.Proofs.Files.Growth

/-!
# What a run reports of its plan

A run takes the outputs of its plan in turn: one whose path is free is written, one whose path is
taken is skipped (`Walk`). From one step of a walk follow, by induction, the frame of the whole
run, that what is written was free before and stays as it was first rendered, and that a second
run finds every path taken. The main statement is `generate_accounts`.
-/
namespace ServiceScaffold
open Files

/-! ## Walks -/

inductive Outcome where
  | written
  | skipped
  deriving DecidableEq, Repr

/-- The outputs of a plan taken in turn, each with what came of it when its turn came. A walk may
stop before its plan does. -/
inductive Walk : Disk → List (String × String) → List Outcome → Disk → Prop where
  | stop (d : Disk) (plan : List (String × String)) : Walk d plan [] d
  | written {d d₁ d₂ : Disk} {path text : String} {plan : List (String × String)}
      {outcomes : List Outcome} (free : d.pathExists path = false)
      (made : d.create path (Text.Utf8.encode text) = .ok d₁) (rest : Walk d₁ plan outcomes d₂) :
      Walk d ((path, text) :: plan) (.written :: outcomes) d₂
  | skipped {d d₁ : Disk} {path text : String} {plan : List (String × String)}
      {outcomes : List Outcome} (taken : d.pathExists path = true)
      (rest : Walk d plan outcomes d₁) :
      Walk d ((path, text) :: plan) (.skipped :: outcomes) d₁

/-- The items that met with an outcome, in their order. -/
def withOutcome {α : Type} (o : Outcome) (items : List α) (outcomes : List Outcome) : List α :=
  ((items.zip outcomes).filter (·.2 = o)).map Prod.fst

variable {α : Type} {d d' : Disk} {plan : List (String × String)} {outcomes : List Outcome}

@[simp] theorem withOutcome_nil (o : Outcome) (items : List α) : withOutcome o items [] = [] := by
  simp [withOutcome]

@[simp] theorem withOutcome_cons (o p : Outcome) (item : α) (items : List α) :
    withOutcome o (item :: items) (p :: outcomes) =
      if p = o then item :: withOutcome o items outcomes else withOutcome o items outcomes := by
  by_cases h : p = o <;> simp [withOutcome, h]

theorem withOutcome_map {β : Type} (o : Outcome) (f : α → β) (items : List α)
    (outcomes : List Outcome) :
    withOutcome o (items.map f) outcomes = (withOutcome o items outcomes).map f := by
  induction items generalizing outcomes with
  | nil => simp [withOutcome]
  | cons item items ih =>
    cases outcomes with
    | nil => simp
    | cons p outcomes =>
      rw [List.map_cons, withOutcome_cons, withOutcome_cons, ih]
      split <;> rfl

theorem withOutcome_append (o : Outcome) (items items' : List α) (outcomes : List Outcome) :
    withOutcome o (items ++ items') outcomes =
      withOutcome o items outcomes ++ withOutcome o items' (outcomes.drop items.length) := by
  induction items generalizing outcomes with
  | nil => simp [withOutcome]
  | cons item items ih =>
    cases outcomes with
    | nil => simp
    | cons p outcomes =>
      rw [List.cons_append, withOutcome_cons, withOutcome_cons, ih]
      split <;> rfl

theorem withOutcome_sublist (o : Outcome) (items : List α) (outcomes : List Outcome) :
    (withOutcome o items outcomes).Sublist items := by
  induction items generalizing outcomes with
  | nil => simp [withOutcome]
  | cons item items ih =>
    cases outcomes with
    | nil => simp
    | cons p outcomes =>
      rw [withOutcome_cons]
      split
      · exact (ih outcomes).cons_cons item
      · exact (ih outcomes).cons item

theorem Walk.grows (h : Walk d plan outcomes d') : d.Grows d' := by
  induction h with
  | stop d _ => exact .refl d
  | written _ made _ ih => exact (Disk.grows_create made).trans ih
  | skipped _ _ ih => exact ih

/-- What is written later was free before. -/
theorem Walk.free (h : Walk d plan outcomes d') :
    ∀ out ∈ withOutcome .written plan outcomes, d.pathExists out.1 = false := by
  induction h with
  | stop => simp
  | @written d d₁ d₂ path text plan outcomes free made _ ih =>
    intro out ho
    simp only [withOutcome_cons, if_true, List.mem_cons] at ho
    rcases ho with rfl | ho
    · exact free
    · exact Bool.eq_false_iff.2 fun e =>
        Bool.false_ne_true ((ih out ho).symm.trans ((Disk.grows_create made).pathExists e))
  | skipped _ _ ih => simpa using ih

theorem Walk.nodup (h : Walk d plan outcomes d') :
    ((withOutcome .written plan outcomes).map Prod.fst).Nodup := by
  induction h with
  | stop => simp
  | @written d d₁ d₂ path text plan outcomes _ made rest ih =>
    simp only [withOutcome_cons, if_true, List.map_cons, List.nodup_cons]
    refine ⟨fun hm => ?_, ih⟩
    obtain ⟨out, ho, rfl⟩ := List.mem_map.1 hm
    have := rest.free out ho
    rw [Disk.pathExists_after_create made] at this
    cases this
  | skipped _ _ ih => simpa using ih

/-- A file written holds its text to the end. -/
theorem Walk.contents (h : Walk d plan outcomes d') :
    ∀ out ∈ withOutcome .written plan outcomes,
      ∃ l, d'.status out.1 = .ok (l, .file (Text.Utf8.encode out.2) false) := by
  induction h with
  | stop => simp
  | @written d d₁ d₂ path text plan outcomes _ made rest ih =>
    intro out ho
    simp only [withOutcome_cons, if_true, List.mem_cons] at ho
    rcases ho with rfl | ho
    · obtain ⟨l, hl⟩ := Disk.status_of_create made
      exact ⟨l, rest.grows.status hl⟩
    · exact ih out ho
  | skipped _ _ ih => simpa using ih

/-- Of the outputs with one path none but the first is written. -/
theorem Walk.first (h : Walk d plan outcomes d') :
    ∀ out ∈ withOutcome .written plan outcomes, plan.find? (·.1 = out.1) = some out := by
  induction h with
  | stop => simp
  | @written d d₁ d₂ path text plan outcomes _ made rest ih =>
    intro out ho
    simp only [withOutcome_cons, if_true, List.mem_cons] at ho
    rcases ho with rfl | ho
    · simp
    · have hne : path ≠ out.1 := by
        rintro rfl
        have := rest.free out ho
        rw [Disk.pathExists_after_create made] at this
        cases this
      simpa [hne] using ih out ho
  | @skipped d d₁ path text plan outcomes taken rest ih =>
    intro out ho
    have ho' : out ∈ withOutcome .written plan outcomes := by simpa using ho
    have hne : path ≠ out.1 := by
      rintro rfl
      rw [rest.free out ho'] at taken
      cases taken
    simpa [hne] using ih out ho'

/-- Behind a walk to the end every path is taken. -/
theorem Walk.taken (h : Walk d plan outcomes d') (hl : outcomes.length = plan.length) :
    ∀ out ∈ plan, d'.pathExists out.1 = true := by
  induction h with
  | stop =>
    intro out ho
    rw [List.eq_nil_of_length_eq_zero hl.symm] at ho
    cases ho
  | @written d d₁ d₂ path text plan outcomes _ made rest ih =>
    simp only [List.mem_cons, forall_eq_or_imp]
    exact ⟨rest.grows.pathExists (Disk.pathExists_after_create made), ih (Nat.succ.inj hl)⟩
  | @skipped d d₁ path text plan outcomes taken rest ih =>
    simp only [List.mem_cons, forall_eq_or_imp]
    exact ⟨rest.grows.pathExists taken, ih (Nat.succ.inj hl)⟩

/-! ## Writing a plan -/

/-- The report of a run over a plan whose outputs met with these outcomes. -/
def Written.ofOutcomes (plan : List (String × String)) (outcomes : List Outcome) : Written :=
  ⟨(withOutcome .written plan outcomes).map Prod.fst,
    (withOutcome .skipped plan outcomes).map Prod.fst⟩

theorem writePlan_walk {plan : List (String × String)}
    (hp : ∀ out ∈ plan, Path.NamesFile out.1) (d : Disk) :
    ∃ outcomes, Walk d plan outcomes (writePlan d plan).2 ∧
      ∀ w, (writePlan d plan).1 = .ok w →
        outcomes.length = plan.length ∧ w = .ofOutcomes plan outcomes := by
  fun_induction writePlan d plan with
  | case1 d => exact ⟨[], .stop d [], fun w hw => by cases hw; exact ⟨rfl, rfl⟩⟩
  | case2 d path text rest d₁ made r d₂ hr ih =>
    obtain ⟨outcomes, hw, ho⟩ := ih fun out ho => hp out (List.mem_cons_of_mem _ ho)
    rw [hr] at hw ho
    refine ⟨.written :: outcomes, .written (Disk.pathExists_of_create made) made hw, ?_⟩
    intro w hrw
    cases r with
    | error e => cases hrw
    | ok w' =>
      obtain ⟨hl, rfl⟩ := ho w' rfl
      cases hrw
      exact ⟨congrArg Nat.succ hl, by simp [Written.ofOutcomes]⟩
  | case3 d path text rest p refused r d₁ hr ih =>
    obtain ⟨outcomes, hw, ho⟩ := ih fun out ho => hp out (List.mem_cons_of_mem _ ho)
    rw [hr] at hw ho
    have taken := Disk.pathExists_of_refused (hp _ List.mem_cons_self) refused
    refine ⟨.skipped :: outcomes, .skipped taken hw, ?_⟩
    intro w hrw
    cases r with
    | error e => cases hrw
    | ok w' =>
      obtain ⟨hl, rfl⟩ := ho w' rfl
      cases hrw
      exact ⟨congrArg Nat.succ hl, by simp [Written.ofOutcomes]⟩
  | case4 d path text rest e _ _ => exact ⟨[], .stop d _, fun w hw => by cases hw⟩

/-- Where every path is taken all outputs are skipped and nothing changes. -/
theorem writePlan_of_taken {plan : List (String × String)}
    (hp : ∀ out ∈ plan, Path.NamesFile out.1) {d : Disk}
    (ht : ∀ out ∈ plan, d.pathExists out.1 = true) :
    writePlan d plan = (.ok ⟨[], plan.map Prod.fst⟩, d) := by
  induction plan with
  | nil => rfl
  | cons out plan ih =>
    obtain ⟨path, text⟩ := out
    simp only [List.mem_cons, forall_eq_or_imp] at hp ht
    rw [writePlan, Disk.create_of_pathExists hp.1 ht.1]
    simp only [ih hp.2 ht.2]
    rfl

/-! ## Plans of a layer -/

theorem Layer.directory_ne_empty (l : Layer) (o : Options) : l.directory o ≠ "" := by
  unfold directory
  split
  · cases l <;> decide
  · assumption

/-- One path for each service and then, where there is a service, that of the models. -/
theorem Layer.paths_plan (l : Layer) (o : Options) (services : List Model.Service) :
    (l.plan o services).map Prod.fst =
      services.map (fun s => Path.join (l.directory o) (l.serviceFileName s)) ++
        if services = [] then [] else [Path.join (l.directory o) modelFileName] := by
  cases services <;> simp [plan, outputs]

theorem Layer.namesFile_of_mem_plan {l : Layer} {o : Options} {services : List Model.Service}
    {out : String × String} (h : out ∈ l.plan o services) : Path.NamesFile out.1 := by
  have named (name : String) (front : List Char) (hn : name.toList = front ++ ".go".toList) :
      Path.NamesFile (Path.join (l.directory o) name) := by
    obtain ⟨before, hb⟩ := Path.join_eq_append (l.directory o) name
    have hp : (Path.join (l.directory o) name).toList =
        (before.toList ++ front) ++ ".go".toList := by
      rw [hb, String.toList_append, hn, List.append_assoc]
    exact Path.namesFile_append (by decide) (by decide) hp
  have hm : out.1 ∈ (l.plan o services).map Prod.fst := List.mem_map_of_mem h
  rw [paths_plan, List.mem_append] at hm
  rcases hm with hm | hm
  · obtain ⟨s, _, he⟩ := List.mem_map.1 hm
    rw [← he]
    cases l with
    | domain => exact named _ (Naming.lower s.name).toList (by simp [serviceFileName])
    | persistence =>
      exact named _ ((Naming.lower s.name).toList ++ "_repo".toList) (by simp [serviceFileName])
  · split at hm
    · cases hm
    · rw [List.mem_singleton.1 hm]
      exact named modelFileName "model".toList (by decide)

/-- What the last output of a plan needs is that the directory is one. -/
theorem Layer.isDirectory_of_taken {l : Layer} {o : Options} {services : List Model.Service}
    (hs : services ≠ []) (ht : ∀ out ∈ l.plan o services, d.pathExists out.1 = true) :
    d.isDirectory (l.directory o) = true := by
  have hm : Path.join (l.directory o) modelFileName ∈ (l.plan o services).map Prod.fst := by
    rw [paths_plan, if_neg hs]
    simp
  obtain ⟨out, ho, he⟩ := List.mem_map.1 hm
  have hp := ht out ho
  rw [he] at hp
  obtain ⟨hn, location, e, hst⟩ := Disk.pathExists_iff.1 hp
  obtain ⟨t, htarget, _⟩ := Disk.target_of_status hst
  exact Disk.isDirectory_of_parent
    (Path.parent_join (l.directory_ne_empty o) (by decide) (by decide)) htarget hn

/-! ## Runs -/

/-- What a run that returns says of its plan: each output is reported once, in order, as written
where its path was free and as skipped where it was taken. What is reported as written was
nowhere before the run and holds the text that comes first in the plan. -/
structure Accounts (before start : Disk) (plan : List (String × String)) (w : Written)
    (after : Disk) : Prop where
  walked : ∃ outcomes, Walk start plan outcomes after ∧ outcomes.length = plan.length ∧
    w = .ofOutcomes plan outcomes
  nodup : w.generated.Nodup
  free : ∀ path ∈ w.generated, before.pathExists path = false
  contents : ∀ path ∈ w.generated, ∃ text l, plan.find? (·.1 = path) = some (path, text) ∧
    after.status path = .ok (l, .file (Text.Utf8.encode text) false)

theorem Walk.accounts {before start : Disk} (hg : before.Grows start)
    (h : Walk start plan outcomes d') (hl : outcomes.length = plan.length) :
    Accounts before start plan (.ofOutcomes plan outcomes) d' where
  walked := ⟨outcomes, h, hl, rfl⟩
  nodup := h.nodup
  free := by
    intro path hp
    obtain ⟨out, ho, rfl⟩ := List.mem_map.1 hp
    exact Bool.eq_false_iff.2 fun e =>
      Bool.false_ne_true ((h.free out ho).symm.trans (hg.pathExists e))
  contents := by
    intro path hp
    obtain ⟨out, ho, rfl⟩ := List.mem_map.1 hp
    obtain ⟨l, hs⟩ := h.contents out ho
    exact ⟨out.2, l, h.first out ho, hs⟩

/-- The disk of a run once its directory has been seen to. -/
def Layer.start (l : Layer) (o : Options) (d : Disk) : Disk :=
  (d.makeDirectories (l.directory o).toList).2

/-- A run walks its plan: to the end where it returns, and then it reports the outcomes. -/
theorem generate_walk (l : Layer) (services : List Model.Service) (o : Options) (d : Disk) :
    ∃ outcomes,
      Walk (l.start o d) (l.plan o services) outcomes (generate l services o d).disk ∧
      ∀ w, (generate l services o d).result = .ok w →
        outcomes.length = (l.plan o services).length ∧
          w = .ofOutcomes (l.plan o services) outcomes := by
  unfold generate Layer.start
  split
  · next hd =>
    rw [hd]
    exact ⟨[], .stop _ _, fun w hw => by cases hw⟩
  · next hd =>
    rw [hd]
    exact writePlan_walk (fun _ => Layer.namesFile_of_mem_plan) _

/-- Once its directory has been seen to a run warns of the messages of the first service, whatever
becomes of its files. -/
theorem generate_warnings_eq (l : Layer) (services : List Model.Service) (o : Options) (d : Disk) :
    (generate l services o d).warnings =
      if (d.makeDirectories (l.directory o).toList).1 = none then
        services.head?.toList.flatMap Model.Service.repetitions
      else [] := by
  unfold generate
  split
  · next hd => simp [hd]
  · next hd => simp [hd]

theorem generate_warnings {l : Layer} {services : List Model.Service} {o : Options} {d : Disk}
    {w : Written} (h : (generate l services o d).result = .ok w) :
    (generate l services o d).warnings =
      services.head?.toList.flatMap Model.Service.repetitions := by
  rw [generate_warnings_eq, if_pos]
  unfold generate at h
  split at h
  · cases h
  · next hd => rw [hd]

theorem grows_generate (l : Layer) (services : List Model.Service) (o : Options) (d : Disk) :
    d.Grows (generate l services o d).disk := by
  obtain ⟨_, walk, _⟩ := generate_walk l services o d
  exact (Disk.grows_makeDirectories d _).trans walk.grows

/-- A run in a directory that exists, all of whose paths are taken. -/
theorem generate_of_taken {l : Layer} {services : List Model.Service} {o : Options} {d : Disk}
    (hd : d.isDirectory (l.directory o) = true)
    (ht : ∀ out ∈ l.plan o services, d.pathExists out.1 = true) :
    generate l services o d = ⟨.ok ⟨[], (l.plan o services).map Prod.fst⟩, d,
      services.head?.toList.flatMap Model.Service.repetitions⟩ := by
  unfold generate
  rw [Disk.makeDirectories_of_isDirectory (by rwa [String.ofList_toList])]
  simp only [writePlan_of_taken (fun _ => Layer.namesFile_of_mem_plan) ht]

/-- Whatever comes of a run, no file that was there before is changed. A run that returns accounts
for its plan, which has one path for each service and one for the models. A second run changes
nothing and skips everything, unless there is no service and the directory, once made, is no
directory. -/
theorem generate_accounts (l : Layer) (services : List Model.Service) (o : Options) (d : Disk) :
    (∀ location contents executable, d.at? location = some (.file contents executable) →
      (generate l services o d).disk.at? location = some (.file contents executable)) ∧
    (l.plan o services).map Prod.fst =
      services.map (fun s => Path.join (l.directory o) (l.serviceFileName s)) ++
        (if services = [] then [] else [Path.join (l.directory o) Layer.modelFileName]) ∧
    ∀ w, (generate l services o d).result = .ok w →
      Accounts d (l.start o d) (l.plan o services) w (generate l services o d).disk ∧
      (services ≠ [] ∨ (generate l services o d).disk.isDirectory (l.directory o) = true →
        generate l services o (generate l services o d).disk =
          { result := .ok ⟨[], (l.plan o services).map Prod.fst⟩
            disk := (generate l services o d).disk
            warnings := (generate l services o d).warnings }) := by
  refine ⟨fun _ _ _ h => (grows_generate l services o d).kept h, l.paths_plan o services, ?_⟩
  intro w hw
  obtain ⟨outcomes, walk, ho⟩ := generate_walk l services o d
  obtain ⟨hl, rfl⟩ := ho w hw
  have taken := walk.taken hl
  refine ⟨walk.accounts (Disk.grows_makeDirectories d _) hl, fun hs => ?_⟩
  have hdir : (generate l services o d).disk.isDirectory (l.directory o) = true :=
    hs.elim (fun hne => Layer.isDirectory_of_taken hne taken) id
  rw [generate_of_taken hdir taken, generate_warnings hw]

/-! ## A directory that is a file -/

/-- Only a file stands on the disk. -/
def lonelyFile : Disk := ⟨[(["f"], .file [0x6B] false)], []⟩

/-- A directory above one that is missing, which makes the file look missing too; the dot at the
end is never made. -/
def throughMissing : Options := { Options.default with directory := "x/../f/." }

/-- The first run takes the file for a directory and returns; the second one is refused. -/
theorem second_run_refused :
    (generate .domain [] throughMissing lonelyFile).result = .ok ⟨[], []⟩ ∧
      (generate .domain [] throughMissing
        (generate .domain [] throughMissing lonelyFile).disk).result =
          .error (.refused .notDirectory "x/../f/.") := by
  constructor <;> with_unfolding_all rfl

end ServiceScaffold

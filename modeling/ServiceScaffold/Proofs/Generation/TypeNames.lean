import ServiceScaffold.Extraction
import ServiceScaffold.Proofs.Generation.Accounting
import ServiceScaffold.Proofs.Skeleton.DeclaredTypes

/-!
# No type is declared twice

The files of the domain layer make one package, in which no type may be declared twice. Entities
are kept apart from each other within a service and from the messages of the schema, and messages
from each other. Nothing keeps the entities of two services apart, or an entity or a message from
the types named after a service: what a run writes declares no type twice exactly when the schema
keeps them apart itself (`TypesApart`).
-/
namespace ServiceScaffold
open Model Files
open Skeleton (Lines)
open Skeleton.Domain

/-! ## Files and their lines -/

/-- The files of a plan with their lines in place of their texts. -/
def Layer.sources (l : Layer) (o : Options) (services : List Service) : List (String × Lines) :=
  services.map (fun s => (Path.join (l.directory o) (l.serviceFileName s), l.serviceFile o s))
    ++ services.head?.toList.map fun s =>
      (Path.join (l.directory o) modelFileName, l.modelFile o s)

theorem Layer.plan_eq (l : Layer) (o : Options) (services : List Service) :
    l.plan o services = (l.sources o services).map fun out => (out.1, out.2.text) := by
  simp only [plan, outputs, sources, List.map_append, List.map_map, Function.comp_def]

/-- The services whose own files were written. -/
def writtenServices (services : List Service) (outcomes : List Outcome) : List Service :=
  withOutcome .written services outcomes

/-- The service that the models were written from, where they were. -/
def writtenModels (services : List Service) (outcomes : List Outcome) : List Service :=
  withOutcome .written services.head?.toList (outcomes.drop services.length)

/-- The types declared by all files that were written. -/
def writtenTypes (o : Options) (services : List Service) (outcomes : List Outcome) :
    List String :=
  (withOutcome .written (Layer.domain.sources o services) outcomes).flatMap
    fun out => out.2.declaredTypes

theorem writtenTypes_eq (o : Options) (services : List Service) (outcomes : List Outcome) :
    writtenTypes o services outcomes =
      ((writtenServices services outcomes).flatMap fun s => entityNames s ++ serviceTypes s) ++
        (writtenModels services outcomes).flatMap
          fun s => s.distinctMessages.map Message.name := by
  rw [writtenTypes, Layer.sources, withOutcome_append, withOutcome_map, withOutcome_map,
    List.length_map, List.flatMap_append, List.flatMap_map, List.flatMap_map]
  simp only [Layer.serviceFile, Layer.modelFile, declaredTypes_useCaseFile,
    declaredTypes_modelFile]
  rfl

/-! ## Keeping types apart -/

/-- The schema itself keeps apart what is declared for it. -/
structure TypesApart (services models : List Service) : Prop where
  entities : services.Pairwise fun s t => ∀ name ∈ entityNames s, name ∉ entityNames t
  ofServices : ∀ s ∈ services, ∀ t ∈ services, ∀ name ∈ entityNames s, name ∉ serviceTypes t
  models : ∀ s ∈ models, ∀ t ∈ services, ∀ m ∈ s.messages, m.name ∉ serviceTypes t

variable {services models : List Service}

theorem length_writtenModels_le (services : List Service) (outcomes : List Outcome) :
    (writtenModels services outcomes).length ≤ 1 := by
  refine Nat.le_trans (withOutcome_sublist _ _ _).length_le ?_
  cases services <;> simp

/-- Files of services with one name have one path, of which only the first is written. -/
theorem Walk.names {o : Options} {outcomes : List Outcome} {d d' : Disk}
    (h : Walk d (Layer.domain.plan o services) outcomes d') :
    (writtenServices services outcomes).Pairwise fun s t => s.name ≠ t.name := by
  have hn := h.nodup
  rw [Layer.plan_eq, withOutcome_map, Layer.sources, withOutcome_append, withOutcome_map,
    List.map_append, List.map_append, List.nodup_append, List.map_map, List.map_map] at hn
  have hp := List.pairwise_map.1 (List.nodup_iff_pairwise_ne.1 hn.1)
  refine hp.imp fun hne e => hne ?_
  simp only [Function.comp_apply, Layer.serviceFileName, e]

/-- What the generator keeps apart by itself: the entities of one service, entities from messages,
messages from each other, and the types named after services with different names. -/
theorem nodup_types_iff (names : services.Pairwise fun s t => s.name ≠ t.name)
    (shared : ∀ s ∈ services, ∀ t ∈ models, s.messages = t.messages) (one : models.length ≤ 1) :
    ((services.flatMap fun s => entityNames s ++ serviceTypes s) ++
        models.flatMap fun s => s.distinctMessages.map Message.name).Nodup ↔
      TypesApart services models := by
  have distinct : (models.flatMap fun s => s.distinctMessages.map Message.name).Nodup := by
    match models, one with
    | [], _ => exact List.nodup_nil
    | [s], _ =>
      rw [List.flatMap_singleton]
      exact nodup_map_firstsFrom _ _ _
  rw [List.nodup_append, List.nodup_iff_pairwise_ne, List.pairwise_flatMap]
  constructor
  · rintro ⟨⟨own, apart⟩, -, behind⟩
    refine ⟨apart.imp fun h name hs ht => ?_, ?_, ?_⟩
    · exact h name (List.mem_append_left _ hs) name (List.mem_append_left _ ht) rfl
    · apply List.Pairwise.forall_of_forall_of_flip
      · intro s hs name he ht
        have hn := List.nodup_iff_pairwise_ne.2 (own s hs)
        exact (List.nodup_append.1 hn).2.2 name he name ht rfl
      · refine apart.imp fun h name he ht => ?_
        exact h name (List.mem_append_left _ he) name (List.mem_append_right _ ht) rfl
      · refine apart.imp fun h name he ht => ?_
        exact h name (List.mem_append_right _ ht) name (List.mem_append_left _ he) rfl
    · intro s hs t ht m hm hmem
      have hf : m.name ∈ s.distinctMessages.map Message.name := mem_map_firsts.2 ⟨m, hm, rfl⟩
      exact behind m.name (List.mem_flatMap.2 ⟨t, ht, List.mem_append_right _ hmem⟩)
        m.name (List.mem_flatMap.2 ⟨s, hs, hf⟩) rfl
  · intro h
    refine ⟨⟨fun s hs => ?_, ?_⟩, distinct, ?_⟩
    · rw [← List.nodup_iff_pairwise_ne, List.nodup_append]
      have ofEntities := nodup_entityNames s
      have ofService := nodup_serviceTypes s
      refine ⟨ofEntities, ofService, fun a ha b hb e => ?_⟩
      exact h.ofServices s hs s hs a ha (e ▸ hb)
    · refine (h.entities.and names).imp_of_mem ?_
      rintro s t hs ht ⟨he, hn⟩ a ha b hb rfl
      rcases List.mem_append.1 ha with ha | ha
      · rcases List.mem_append.1 hb with hb | hb
        · exact he a ha hb
        · exact h.ofServices s hs t ht a ha hb
      · rcases List.mem_append.1 hb with hb | hb
        · exact h.ofServices t ht s hs a hb ha
        · exact serviceTypes_disjoint hn a ha hb
    · rintro a ha b hb rfl
      obtain ⟨s, hs, ha⟩ := List.mem_flatMap.1 ha
      obtain ⟨t, ht, hb⟩ := List.mem_flatMap.1 hb
      obtain ⟨m, hm, rfl⟩ := mem_map_firsts.1 hb
      rcases List.mem_append.1 ha with ha | ha
      · exact not_mem_entityNames_of_message (shared s hs t ht ▸ hm) ha
      · exact h.models t ht s hs m hm ha

/-! ## Runs -/

/-- A run of the domain layer on the services of a schema. -/
theorem writtenTypes_nodup_iff {file : Schema.File} {source : String} {e : Extraction}
    (h : Extraction.ofDeclarations file source = .ok e) (o : Options) (d : Disk) :
    ∃ outcomes,
      Walk (Layer.domain.start o d) (Layer.domain.plan o e.services) outcomes
        (generate .domain e.services o d).disk ∧
      (∀ w, (generate .domain e.services o d).result = .ok w →
        outcomes.length = (Layer.domain.plan o e.services).length ∧
          w = .ofOutcomes (Layer.domain.plan o e.services) outcomes) ∧
      ((writtenTypes o e.services outcomes).Nodup ↔
        TypesApart (writtenServices e.services outcomes) (writtenModels e.services outcomes)) := by
  obtain ⟨outcomes, walk, reported⟩ := generate_walk .domain e.services o d
  refine ⟨outcomes, walk, reported, ?_⟩
  rw [writtenTypes_eq]
  refine nodup_types_iff walk.names (fun s hs t ht => ?_) (length_writtenModels_le _ _)
  have hs := (withOutcome_sublist _ _ _).mem hs
  have ht := (withOutcome_sublist _ _ _).mem ht
  exact Extraction.ofDeclarations_messages_eq h s hs t
    (List.mem_of_mem_head? (Option.mem_toList.1 ht))

/-- Two services, the second of which has a request type to choose. -/
def twoServices (request : String) : Schema.File :=
  [.service ⟨"A", [.rpc ⟨"Get", "GetRequest", "GetReply", false, false, []⟩]⟩,
   .service ⟨"B", [.rpc ⟨"Find", request, "FindReply", false, false, []⟩]⟩]

/-- A disk on which nothing stands. -/
def nothingYet : Disk := ⟨[], []⟩

theorem writtenTypes_nodup_iff_twoServices :
    ∃ e outcomes, Extraction.ofDeclarations (twoServices "FindRequest") "ab.proto" = .ok e ∧
      Walk (Layer.domain.start .default nothingYet) (Layer.domain.plan .default e.services)
        outcomes (generate .domain e.services .default nothingYet).disk ∧
      ((writtenTypes .default e.services outcomes).Nodup ↔
        TypesApart (writtenServices e.services outcomes) (writtenModels e.services outcomes)) := by
  obtain ⟨e, he⟩ :
      ∃ e, Extraction.ofDeclarations (twoServices "FindRequest") "ab.proto" = .ok e := ⟨_, rfl⟩
  obtain ⟨outcomes, walk, _, apart⟩ := writtenTypes_nodup_iff he .default nothingYet
  exact ⟨e, outcomes, he, walk, apart⟩

/-- One request used by both services is declared as an entity of each. -/
theorem shared_request_declared_twice :
    ∃ e, Extraction.ofDeclarations (twoServices "GetRequest") "ab.proto" = .ok e ∧
      (generate .domain e.services .default nothingYet).result.toOption =
        some ⟨["internal/biz/a.go", "internal/biz/b.go", "internal/biz/model.go"], []⟩ ∧
      ¬(writtenTypes .default e.services [.written, .written, .written]).Nodup := by
  refine ⟨_, rfl, by decide +kernel, ?_⟩
  rw [writtenTypes_eq]
  decide

end ServiceScaffold

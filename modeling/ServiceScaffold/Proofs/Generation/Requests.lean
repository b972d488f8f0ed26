import ServiceScaffold.Proofs.Generation.UseCaseText
import ServiceScaffold.Proofs.Printing.RoundTrip

/-!
# Declarations of request types

A use case takes a request by its short name. The type of that name is a model where some message of
the schema is so called, and an entity of the service otherwise. The generator decides this with one
pass over the methods, one over the messages, and a search for each request. Here it is said with the
lists of names alone (`undeclaredRequests`, `messageNames`), and the fields with one table from names
to fields (`fieldsOf`), which serves the entities and the models alike. The declarations are found
among the lines of the files and, of a schema that is a text, in their texts.
-/
namespace ServiceScaffold
open Model Skeleton

/-! ## What a service needs -/

namespace Model.Service

/-- The short names of the requests that no message goes by, each where it is used first. -/
def undeclaredRequests (s : Service) : List String :=
  ((s.methods.map Method.requestShort).filter
    fun name => name ≠ "" ∧ name ∉ s.messages.map Message.name).eraseDups

/-- The fields behind a short name: those of the request message of the first method that uses it. -/
def requestFields (s : Service) (short : String) : List Field :=
  (s.methods.find? (·.requestShort = short)).elim []
    fun m => s.fieldsOf (lastSegment m.requestFull)

end Model.Service

/-- The line of a field among the entities. -/
def entityFieldLine (f : Field) : String :=
  "\t" ++ Naming.upperCamel f.name ++ " " ++ goType f.type ++ " // " ++ f.name

/-- The line of a field among the models, which names the type that it refers to. -/
def modelFieldLine (f : Field) : String :=
  "\t" ++ Naming.upperCamel f.name ++ " " ++ goType f.type
    ++ (if f.typeName = "" then "" else " // " ++ f.typeName)

/-- Where the types of a service's requests are declared: those that no message goes by in the file
of its use case, the others among the models, which are written from the service `first`. What a file
declares is what `read` finds in it. -/
structure DeclaresRequests (read : Lines → Option (List (String × Lines))) (o : Options)
    (first s : Service) : Prop where
  entities : read (Layer.domain.serviceFile o s) = some
    ((s.undeclaredRequests.map fun n => (n, (s.requestFields n).map entityFieldLine))
      ++ [(s.name ++ "UseCase", useCaseBody s.name o.logged)])
  models : read (Layer.domain.modelFile o first) = some
    (s.messageNames.map fun n => (n, (s.fieldsOf n).map modelFieldLine))
  declared : ∀ m ∈ s.methods, m.requestShort ≠ "" →
    (m.requestShort ∈ s.undeclaredRequests ↔ ∀ message ∈ s.messages, message.name ≠ m.requestShort) ∧
    (m.requestShort ∈ s.messageNames ↔ ∃ message ∈ s.messages, message.name = m.requestShort)
  origin : ∀ n ∈ s.undeclaredRequests, ∃ before m after, s.methods = before ++ m :: after ∧
    m.requestShort = n ∧ (∀ b ∈ before, b.requestShort ≠ n) ∧
    s.requestFields n = s.fieldsOf (lastSegment m.requestFull) ∧
    (lastSegment m.requestFull ∉ s.messageNames → s.requestFields n = [])

/-! ## Names -/

section Names

variable {s : Service} {name : String}

theorem mem_undeclaredRequests :
    name ∈ s.undeclaredRequests ↔ (∃ m ∈ s.methods, m.requestShort = name) ∧ name ≠ "" ∧
      ∀ m ∈ s.messages, m.name ≠ name := by
  simp [Service.undeclaredRequests]

theorem needsEntity_iff {m : Method} :
    Domain.needsEntity s m ↔ m.requestShort ≠ "" ∧ m.requestShort ∉ s.messages.map Message.name := by
  simp [Domain.needsEntity, Service.message?]

end Names

/-! ## Entities -/

theorem entityField_line : StructField.line ∘ Domain.entityField = entityFieldLine := by
  funext f
  simp [StructField.line, Domain.entityField, entityFieldLine, behind, String.append_assoc]

theorem lines_entityFields (s : Service) (m : Method) :
    (Domain.entityFields s m).map StructField.line =
      (s.fieldsOf (lastSegment m.requestFull)).map entityFieldLine := by
  rw [Domain.entityFields, Service.message?, Service.fieldsOf, lastSegment_eq]
  cases s.messages.find? fun message => message.name = Naming.bare m.requestFull with
  | none => rfl
  | some message => simp only [List.map_map, entityField_line, Option.elim_some]

/-- Among the methods that need an entity, the first with a request is the first of all. -/
theorem find?_needsEntity {s : Service} {n : String} (h : n ∈ s.undeclaredRequests) :
    (s.methods.filter (Domain.needsEntity s)).find? (·.requestShort = n) =
      s.methods.find? (·.requestShort = n) := by
  rw [List.find?_filter]
  congr 1
  funext m
  by_cases hn : m.requestShort = n
  · have needs : Domain.needsEntity s m := by
      rw [needsEntity_iff, hn]
      obtain ⟨_, hne, hnone⟩ := mem_undeclaredRequests.1 h
      exact ⟨hne, by simpa using hnone⟩
    simp [hn, needs]
  · simp [hn]

theorem requests_filter (s : Service) :
    (s.methods.filter (Domain.needsEntity s)).map Method.requestShort =
      (s.methods.map Method.requestShort).filter
        fun name => name ≠ "" ∧ name ∉ s.messages.map Message.name := by
  rw [List.filter_map]
  congr 2
  funext m
  rw [Function.comp_apply, Bool.eq_iff_iff, needsEntity_iff, decide_eq_true_iff]

theorem blocks_entities (s : Service) :
    (Domain.entities s).map Struct.block =
      s.undeclaredRequests.map fun n => (n, (s.requestFields n).map entityFieldLine) := by
  let linesOf (m : Option Method) : Lines :=
    (m.elim [] fun m => s.fieldsOf (lastSegment m.requestFull)).map entityFieldLine
  have block (m : Method) : Struct.block ⟨m.requestShort, Domain.entityFields s m⟩ =
      (m.requestShort, linesOf (some m)) := by
    rw [Struct.block, lines_entityFields]
    rfl
  calc (Domain.entities s).map Struct.block
      = (firsts Method.requestShort (s.methods.filter (Domain.needsEntity s))).map
          fun m => (m.requestShort, linesOf (some m)) := by
        simp only [Domain.entities, List.map_map, Function.comp_def, block]
    _ = s.undeclaredRequests.map fun n => (n, linesOf
          ((s.methods.filter (Domain.needsEntity s)).find? (·.requestShort = n))) := by
        rw [map_firsts_eq linesOf, requests_filter]
        rfl
    _ = s.undeclaredRequests.map fun n => (n, (s.requestFields n).map entityFieldLine) := by
        refine List.map_congr_left fun n hn => ?_
        rw [find?_needsEntity hn]
        rfl

/-! ## Models -/

theorem modelField_line : StructField.line ∘ Domain.modelField = modelFieldLine := by
  funext f
  by_cases h : f.typeName = "" <;>
    simp [StructField.line, Domain.modelField, modelFieldLine, behind, comment?, h]

theorem blocks_models (s : Service) :
    s.distinctMessages.map (Struct.block ∘ Domain.modelStruct) =
      s.messageNames.map fun n => (n, (s.fieldsOf n).map modelFieldLine) := by
  have block (m : Message) :
      Struct.block (Domain.modelStruct m) = (m.name, m.fields.map modelFieldLine) := by
    simp only [Struct.block, Domain.modelStruct, List.map_map, modelField_line]
  simp only [Function.comp_def, block]
  exact s.map_distinctMessages (List.map modelFieldLine)

/-! ## Files -/

theorem declaresRequests {o : Options} {first s : Service} (h : first.messages = s.messages) :
    DeclaresRequests Lines.structs? o first s where
  entities := by
    rw [Layer.serviceFile, ← List.append_nil (Domain.useCaseFile _ _ _), structs?_useCaseFile,
      blocks_entities]
    simp [Lines.structs?, Domain.useCaseName]
  models := by
    rw [Layer.modelFile, ← List.append_nil (Domain.modelFile _ _), structs?_domainModels]
    rw [show first.distinctMessages = s.distinctMessages by simp only [Service.distinctMessages, h],
      blocks_models]
    simp [Lines.structs?]
  declared m hm hne := by
    rw [mem_undeclaredRequests, Service.mem_messageNames]
    exact ⟨⟨fun h => h.2.2, fun h => ⟨⟨m, hm, rfl⟩, hne, h⟩⟩, Iff.rfl⟩
  origin n hn := by
    obtain ⟨⟨m, hm, rfl⟩, -, -⟩ := mem_undeclaredRequests.1 hn
    obtain ⟨m', hm'⟩ : ∃ m', s.methods.find? (·.requestShort = m.requestShort) = some m' :=
      Option.isSome_iff_exists.1 (List.find?_isSome.2 ⟨m, hm, by simp⟩)
    obtain ⟨hshort, before, after, hsplit, hbefore⟩ := List.find?_eq_some_iff_append.1 hm'
    have fields : s.requestFields m.requestShort = s.fieldsOf (lastSegment m'.requestFull) := by
      rw [Service.requestFields, hm']
      rfl
    refine ⟨before, m', after, hsplit, by simpa using hshort, by simpa using hbefore, fields, ?_⟩
    exact fun hno => fields.trans (Service.fieldsOf_of_not_mem hno)

/-- Where no name breaks a line, the texts of the files declare what their lines do. -/
theorem DeclaresRequests.written {o : Options} {first s : Service} (hfirst : first.Unbroken)
    (hs : s.Unbroken) (h : DeclaresRequests Lines.structs? o first s) :
    DeclaresRequests Lines.written? o first s where
  entities := (written?_useCaseFile hs o).trans h.entities
  models := (written?_modelFile hfirst o).trans h.models
  declared := h.declared
  origin := h.origin

/-- Whatever services come of a schema, the file of a use case declares exactly the requests of its
methods that no message goes by, and the models exactly the messages. When the schema is a text, this
can be read from the texts of the files. -/
theorem ofDeclarations_declaresRequests {file : Schema.File} {source : String} {e : Extraction}
    (h : Extraction.ofDeclarations file source = .ok e) (o : Options) :
    ∃ first, e.services.head? = some first ∧ ∀ s ∈ e.services,
      DeclaresRequests Lines.structs? o first s ∧
      ((∃ text, Schema.File.ofText text = .ok file) →
        DeclaresRequests Lines.written? o first s) := by
  obtain ⟨first, rest, hs⟩ :=
    List.exists_cons_of_ne_nil (Extraction.ofDeclarations_services_ne_nil h)
  have hfirst : first ∈ e.services := by simp [hs]
  refine ⟨first, by rw [hs]; rfl, fun s hmem => ?_⟩
  have declares : DeclaresRequests Lines.structs? o first s :=
    declaresRequests (Extraction.ofDeclarations_messages_eq h first hfirst s hmem)
  refine ⟨declares, ?_⟩
  rintro ⟨text, hf⟩
  have unbroken := unbroken_services hf h
  exact declares.written (unbroken first hfirst) (unbroken s hmem)

/-- A nested message whose name is declared again, two types that share a short name, one without a
suffix, and one that no message describes. -/
def sharedRequests : Schema.File :=
  [.message ⟨"Filters",
     [.message "FindRequest" [.statement (.field ⟨"string", "user_id", 1, false, .bare⟩)]]⟩,
   .message ⟨"FindRequest", [.statement (.field ⟨"Filters", "filters", 1, true, .repeated⟩)]⟩,
   .message ⟨"Ping", []⟩,
   .service ⟨"Search",
     [.rpc ⟨"Find", ".p.FindRequest", "FindReply", false, false, []⟩,
      .rpc ⟨"Scan", "q.FindRequest", "ScanReply", false, true, []⟩,
      .rpc ⟨"Probe", "Ping", "Pong", false, false, []⟩,
      .rpc ⟨"Stop", "StopRequest", "StopReply", false, false, []⟩]⟩]

theorem ofDeclarations_declaresRequests_sharedRequests :
    ∃ e first s, Extraction.ofDeclarations sharedRequests "p.proto" = .ok e ∧
      e.services.head? = some first ∧ e.services = [s] ∧
      DeclaresRequests Lines.structs? .default first s ∧
      Schema.File.ofText sharedRequests.text = .ok sharedRequests ∧
      DeclaresRequests Lines.written? .default first s ∧
      s.undeclaredRequests = ["Find", "Stop"] ∧
      s.messageNames = ["Filters", "FindRequest", "Ping"] ∧
      s.requestFields "Find" = [⟨"user_id", "string", 1⟩] ∧ s.requestFields "Stop" = [] := by
  have placed : sharedRequests.WellPlaced := by decide
  obtain ⟨e, he⟩ : ∃ e, Extraction.ofDeclarations sharedRequests "p.proto" = .ok e :=
    ⟨_, (ofDeclarations_eq placed "p.proto").trans rfl⟩
  obtain ⟨first, hfirst, declares⟩ := ofDeclarations_declaresRequests he .default
  obtain rfl := Except.ok.inj ((ofDeclarations_eq placed "p.proto").symm.trans he)
  have printable : sharedRequests.IsPrintable := by decide +kernel
  obtain ⟨t, ht, hl⟩ := Schema.Printing.ofText_layout (Schema.Printing.areWritable_file printable)
  have hf := Schema.File.ofText_of_lexemes printable ht hl
  obtain ⟨lines, texts⟩ := declares _ (List.mem_singleton.2 rfl)
  exact ⟨_, first, _, he, hfirst, rfl, lines, hf, texts ⟨_, hf⟩, by decide, by decide, rfl, rfl⟩

end ServiceScaffold

import ServiceScaffold.Proofs.Skeleton.Reading

/-!
# The types of the domain layer

The file of a service declares its entities and the two types named after it; the file of the
models declares each message once, by the first declaration of its name.
-/
namespace ServiceScaffold.Skeleton.Domain
open Model

/-- The types named after a service. -/
def serviceTypes (s : Service) : List String :=
  [interfaceName s.name, useCaseName s.name]

theorem mem_serviceTypes {s : Service} {name : String} :
    name ∈ serviceTypes s ↔ name = s.name ++ "Repo" ∨ name = s.name ++ "UseCase" := by
  simp [serviceTypes, interfaceName, useCaseName]

theorem append_repo_ne_append_useCase (name name' : String) :
    name ++ "Repo" ≠ name' ++ "UseCase" := by
  intro h
  have hl := congrArg (fun s => s.toList.reverse.head?) h
  simp at hl

theorem nodup_serviceTypes (s : Service) : (serviceTypes s).Nodup := by
  simp [serviceTypes, interfaceName, useCaseName]

theorem serviceTypes_disjoint {s t : Service} (h : s.name ≠ t.name) :
    ∀ name ∈ serviceTypes s, name ∉ serviceTypes t := by
  intro name hs ht
  rw [mem_serviceTypes] at hs ht
  rcases hs with rfl | rfl
  · rcases ht with ht | ht
    · exact h ((String.append_left_inj "Repo").1 ht)
    · exact append_repo_ne_append_useCase _ _ ht
  · rcases ht with ht | ht
    · exact append_repo_ne_append_useCase _ _ ht.symm
    · exact h ((String.append_left_inj "UseCase").1 ht)

def entityNames (s : Service) : List String :=
  (entities s).map Struct.name

theorem entityNames_eq (s : Service) :
    entityNames s =
      (firsts Method.requestShort (s.methods.filter (needsEntity s))).map Method.requestShort := by
  simp only [entityNames, entities, List.map_map]
  rfl

theorem mem_entityNames {s : Service} {name : String} :
    name ∈ entityNames s ↔ name ≠ "" ∧ s.message? name = none ∧
      ∃ m ∈ s.methods, m.requestShort = name := by
  rw [entityNames_eq, mem_map_firsts]
  simp only [List.mem_filter, needsEntity, Bool.and_eq_true, decide_eq_true_eq,
    Option.isNone_iff_eq_none]
  constructor
  · rintro ⟨m, ⟨hm, hne, hn⟩, rfl⟩
    exact ⟨hne, hn, m, hm, rfl⟩
  · rintro ⟨hne, hn, m, hm, rfl⟩
    exact ⟨m, ⟨hm, hne, hn⟩, rfl⟩

theorem nodup_entityNames (s : Service) : (entityNames s).Nodup := by
  rw [entityNames_eq]
  exact nodup_map_firstsFrom _ _ _

/-- No entity has the name of a message. -/
theorem not_mem_entityNames_of_message {s : Service} {m : Message} (h : m ∈ s.messages) :
    m.name ∉ entityNames s := by
  intro he
  have hn := (mem_entityNames.1 he).2.1
  simpa using List.find?_eq_none.1 hn m h

/-! ## What declares no type -/

theorem lacks_front (packageName : String) (logged : Bool) :
    Lines.Lacks "type " ([clause packageName, ""] ++ importLines logged) := by
  simp [clause, importLines]

theorem lacks_interfaceBody (methods : List Method) :
    Lines.Lacks "type " (methods.flatMap interfaceMethod ++ [closeBrace]) := by
  refine lacks_append.2 ⟨lacks_flatMap (fun m => ?_) methods, by simp [closeBrace]⟩
  simp [interfaceMethod]

theorem lacks_useCaseMethods (service : String) (logged : Bool) (methods : List Method) :
    Lines.Lacks "type " (methods.flatMap (useCaseMethod service logged)) := by
  refine lacks_flatMap (fun m => ?_) methods
  unfold useCaseMethod
  simp [methodHead, closeBrace]

/-! ## Files -/

theorem declaredTypes_useCaseFile (s : Service) (packageName : String) (logged : Bool) :
    (useCaseFile s packageName logged).declaredTypes = entityNames s ++ serviceTypes s := by
  have entity (e : Struct) : (entityLines e).declaredTypes = [e.name] :=
    declaredTypes_struct (by simp) e
  have interface : (interfaceLines s.name s.methods).declaredTypes = [interfaceName s.name] :=
    declaredTypes_declaration ["", _] (declaredType?_interfaceHead _) (by simp)
      (lacks_interfaceBody s.methods)
  have constructor : (constructorLines s.name logged).declaredTypes = [useCaseName s.name] := by
    refine declaredTypes_declaration ["", _] (declaredType?_structHead _) (by simp) ?_
    simp [closeBrace]
  rw [useCaseFile, declaredTypes_append, declaredTypes_append, declaredTypes_append,
    declaredTypes_append, declaredTypes_of_lacks (lacks_front packageName logged),
    declaredTypes_flatMap entity, interface, constructor,
    declaredTypes_of_lacks (lacks_useCaseMethods s.name logged s.methods)]
  simp [entityNames, serviceTypes]

theorem declaredTypes_modelFile (s : Service) (packageName : String) :
    (modelFile s packageName).declaredTypes = s.distinctMessages.map Message.name := by
  have model (m : Message) : (modelLines m).declaredTypes = [m.name] :=
    declaredTypes_struct (by simp) (modelStruct m)
  rw [modelFile, declaredTypes_append, declaredTypes_of_lacks (by simp [clause]),
    declaredTypes_flatMap model, List.nil_append]

end ServiceScaffold.Skeleton.Domain

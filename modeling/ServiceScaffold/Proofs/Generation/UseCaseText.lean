import ServiceScaffold.Proofs.Generation.ModelText

/-!
# The text of a use case

No name of a service that comes of a text has a space or a line feed in it (`Service.Unbroken`), so
the lines of its use case are read back from the text of the file as they were written, and so are
those of the models.
-/
namespace ServiceScaffold
open Model Naming Text Skeleton

/-! ## Names -/

section Names

variable {s : String}

theorem Unbroken.declared (h : Unbroken s) : Unbroken (declared s) := by
  refine h.of_caseless fun x hx hu hc => ?_
  rw [Naming.declared, String.toList_ofList, mem_camelFrom_iff hx hu] at hc
  exact (List.takeWhile_prefix _).subset hc

theorem Unbroken.lower (h : Unbroken s) : Unbroken (lower s) := by
  refine h.of_caseless fun x hx _ hc => ?_
  rwa [Naming.lower, String.toList_ofList, mem_lowercase_iff hx] at hc

theorem mem_lowerFirst_iff {x : Char} (hx : isCaseless x = true) (cs : List Char) :
    x ∈ lowerFirst cs ↔ x ∈ cs := by
  cases cs with
  | nil => exact Iff.rfl
  | cons c cs => rw [lowerFirst, List.mem_append, mem_lowercase_iff hx, List.mem_singleton,
      List.mem_cons]

theorem Unbroken.lowerCamel (h : Unbroken s) : Unbroken (lowerCamel s) := by
  refine h.of_caseless fun x hx hu hc => ?_
  rwa [Naming.lowerCamel, String.toList_ofList, mem_lowerFirst_iff hx, mem_camelFrom_iff hx hu]
    at hc

theorem Unbroken.relative (h : Unbroken s) : Unbroken (relative s) := by
  refine h.of_subset ?_
  unfold Naming.relative
  split
  · next cs he =>
    rw [he, String.toList_ofList]
    exact List.subset_cons_self '.' cs
  · exact List.Subset.refl _

theorem Unbroken.shortName (h : Unbroken s) (suffix : String) : Unbroken (shortName suffix s) := by
  rw [Model.shortName, withoutSuffix, Naming.dropSuffix?]
  cases hd : Text.dropSuffix? suffix.toList (Naming.bare s).toList with
  | none => exact h.bare
  | some front =>
    refine h.bare.of_subset ?_
    rw [Text.dropSuffix?_eq_some.1 hd]
    simp

end Names

/-! ## Services -/

structure Model.Method.Unbroken (m : Method) : Prop where
  name : ServiceScaffold.Unbroken m.name
  requestFull : ServiceScaffold.Unbroken m.requestFull
  requestShort : ServiceScaffold.Unbroken m.requestShort
  responseShort : ServiceScaffold.Unbroken m.responseShort

structure Model.Service.Unbroken (s : Service) : Prop where
  name : ServiceScaffold.Unbroken s.name
  methods : ∀ m ∈ s.methods, m.Unbroken
  messages : ∀ m ∈ s.messages, m.Unbroken

theorem unbroken_ofRpc {r : Schema.Rpc} (h : r.Spelled) : (Method.ofRpc r).Unbroken := by
  have request := unbroken_of_word h.request
  have response := unbroken_of_word h.response
  unfold Method.ofRpc
  constructor
  · dsimp only
    exact (unbroken_of_word h.name).declared
  · dsimp only
    exact request.relative
  · dsimp only
    exact request.shortName requestSuffix
  · dsimp only
    exact response.shortName replySuffix

theorem unbroken_declaredService {file : Schema.File} (h : file.Spelled) (source : String)
    {d : Schema.Service} (hd : d ∈ file.services) : (declaredService file source d).Unbroken where
  name := (unbroken_of_word (h.services d hd).name).declared
  methods := by
    intro m hm
    obtain ⟨r, hr, rfl⟩ := List.mem_map.1 hm
    exact unbroken_ofRpc ((h.services d hd).rpcs r hr)
  messages := unbroken_declaredMessages h

theorem unbroken_services {text source : String} {file : Schema.File} {e : Extraction}
    (hf : Schema.File.ofText text = .ok file) (h : Extraction.ofDeclarations file source = .ok e) :
    ∀ s ∈ e.services, s.Unbroken := by
  intro s hs
  rw [services_of_ofDeclarations (Schema.wellPlaced_of_ofText hf) h] at hs
  obtain ⟨d, hd, rfl⟩ := List.mem_map.1 hs
  exact unbroken_declaredService (Schema.spelled_of_ofText hf) source hd

/-! ## Lines -/

section Lines
open Domain

theorem unbroken_entityFields {s : Service} (h : s.Unbroken) (m : Method) :
    ∀ f ∈ entityFields s m, f.Unbroken := by
  intro f hf
  unfold entityFields at hf
  split at hf
  · next message hs =>
    obtain ⟨d, hd, rfl⟩ := List.mem_map.1 hf
    obtain ⟨name, type⟩ := (h.messages message (List.mem_of_find?_eq_some hs)).fields d hd
    refine ⟨name.upperCamel, type.goType, fun tag ht => absurd ht (Option.not_mem_none tag),
      fun comment hc => ?_⟩
    cases hc
    exact name.2
  · cases hf

theorem single_entities {s : Service} (h : s.Unbroken) :
    Lines.Single ((entities s).flatMap entityLines) := by
  refine single_flatMap fun e he => ?_
  obtain ⟨m, hm, rfl⟩ := List.mem_map.1 he
  have hm := List.mem_of_mem_filter (List.mem_of_find?_eq_some (find?_of_mem_firsts hm))
  have hshort := (h.methods m hm).requestShort
  have struct := single_struct (s := ⟨m.requestShort, entityFields s m⟩) hshort
    (unbroken_entityFields h m)
  simp [entityLines, hshort.2, struct]

theorem newline_not_mem_methodComment {m : Method} (h : m.Unbroken) :
    '\n' ∉ (methodComment m).toList := by
  have note : '\n' ∉ (streamingNote m.streaming).toList := by
    cases m.streaming <;> decide
  simp [methodComment, h.name.2, h.requestFull.2, note]

theorem newline_not_mem_parameter {m : Method} (h : m.Unbroken) {p : Parameter}
    (hp : (signature m).parameter = some p) : '\n' ∉ p.name.toList ∧ '\n' ∉ p.type.toList := by
  have short := h.requestShort
  simp only [signature, parameter?] at hp
  split at hp
  · cases hp
  · cases hp
    exact ⟨short.lowerCamel.2, by simp [short.2]⟩

theorem newline_not_mem_signature {m : Method} (h : m.Unbroken) :
    '\n' ∉ (signature m).text.toList := by
  have name : '\n' ∉ (signature m).name.toList := h.name.2
  have parameter : '\n' ∉ (signature m).parameterText.toList := by
    unfold Signature.parameterText
    split
    · next p hp => simp [newline_not_mem_parameter h hp]
    · decide
  have result : '\n' ∉ (signature m).result.toList := by simp [signature, h.responseShort.2]
  simp [Signature.text, name, parameter, result]

theorem newline_not_mem_argument {m : Method} (h : m.Unbroken) :
    '\n' ∉ (signature m).argumentText.toList := by
  unfold Signature.argumentText
  split
  · next p hp => simp [newline_not_mem_parameter h hp]
  · decide

theorem single_interfaceLines {s : Service} (h : s.Unbroken) :
    (interfaceLines s.name s.methods).Single := by
  have methods : Lines.Single (s.methods.flatMap interfaceMethod) := by
    refine single_flatMap fun m hm => ?_
    have comment := newline_not_mem_methodComment (h.methods m hm)
    have signature := newline_not_mem_signature (h.methods m hm)
    simp [interfaceMethod, comment, signature]
  simp [interfaceLines, interfaceName, h.name.2, methods, openBrace, closeBrace]

theorem single_constructorLines {s : Service} (h : s.Unbroken) (logged : Bool) :
    (constructorLines s.name logged).Single := by
  have lower := h.name.lower.2
  cases logged <;>
    simp [constructorLines, useCaseName, interfaceName, structHead, given, h.name.2, lower,
      openBrace, closeBrace]

theorem single_useCaseMethod {s : Service} (h : s.Unbroken) (logged : Bool) {m : Method}
    (hm : m ∈ s.methods) : (useCaseMethod s.name logged m).Single := by
  have name := (h.methods m hm).name.2
  have comment := newline_not_mem_methodComment (h.methods m hm)
  have signature := newline_not_mem_signature (h.methods m hm)
  have argument := newline_not_mem_argument (h.methods m hm)
  cases logged <;>
    simp [useCaseMethod, useCaseName, methodHead, given, h.name.2, name, comment, signature,
      argument, openBrace, closeBrace]

theorem single_useCaseFile {s : Service} (h : s.Unbroken) {packageName : String}
    (hp : ServiceScaffold.Unbroken packageName) (logged : Bool) :
    (useCaseFile s packageName logged).Single := by
  have imports : (importLines logged).Single := by
    cases logged <;> simp [importLines, given]
  have methods : Lines.Single (s.methods.flatMap (useCaseMethod s.name logged)) :=
    single_flatMap fun m hm => single_useCaseMethod h logged hm
  simp [useCaseFile, clause, hp.2, imports, single_entities h, single_interfaceLines h,
    single_constructorLines h logged, methods]

end Lines

/-! ## Texts -/

/-- The structs in the text that the lines make up, each with the lines of its body. -/
def Skeleton.Lines.written? (lines : Lines) : Option (List (String × Lines)) :=
  (linesIn lines.text).structs?

/-- The structs of lines that may stand in front of others are found in the text of the lines too. -/
theorem written?_eq_structs? {lines : Lines} (single : lines.Single) {blocks : List (String × Lines)}
    (front : ∀ rest, Lines.structs? (lines ++ rest) = (Lines.structs? rest).map (blocks ++ ·)) :
    lines.written? = lines.structs? := by
  have alone := front []
  rw [List.append_nil] at alone
  rw [Lines.written?, linesIn_text single, front, structs?_blank, alone]
  rfl

section Texts

variable {s : Service} (h : s.Unbroken) (o : Options)
include h

theorem written?_useCaseFile :
    (Layer.domain.serviceFile o s).written? = (Layer.domain.serviceFile o s).structs? := by
  have single := single_useCaseFile h (Layer.domain.unbroken_packageName o) o.logged
  exact written?_eq_structs? single (structs?_useCaseFile s _ o.logged)

theorem written?_modelFile :
    (Layer.domain.modelFile o s).written? = (Layer.domain.modelFile o s).structs? :=
  written?_eq_structs? (single_domainModelFile h.messages (Layer.domain.unbroken_packageName o))
    (structs?_domainModels s _)

end Texts

end ServiceScaffold

import ServiceScaffold.Proofs.Generation.Accounting
import ServiceScaffold.Proofs.Model.FirstDeclarations
import ServiceScaffold.Proofs.Model.WellFormed
import ServiceScaffold.Proofs.Skeleton.Structs

/-!
# Reading the models back

The models of both layers are read back from their texts (`structsIn`): the structs are the distinct
messages in the order of their first declaration, each with the fields of that declaration. A name with
a space or a line feed in it would break a line in two; no word of a schema has one (`Unbroken`), and
no name or type that the generator makes of such words.
-/
namespace ServiceScaffold
open Model Naming Text Skeleton

/-! ## Unbroken names -/

/-- Neither a space nor a line feed stands in a text. -/
def Unbroken (s : String) : Prop :=
  ' ' ∉ s.toList ∧ '\n' ∉ s.toList

instance (s : String) : Decidable (Unbroken s) :=
  inferInstanceAs (Decidable (_ ∧ _))

section Unbroken

variable {s t : String}

theorem Unbroken.append (hs : Unbroken s) (ht : Unbroken t) : Unbroken (s ++ t) := by
  simp [Unbroken, hs.1, hs.2, ht.1, ht.2]

theorem Unbroken.of_subset (h : Unbroken s) (hm : t.toList ⊆ s.toList) : Unbroken t :=
  ⟨fun hc => h.1 (hm hc), fun hc => h.2 (hm hc)⟩

theorem isCaseless_space : isCaseless ' ' = true := by decide +kernel

theorem isCaseless_newline : isCaseless '\n' = true := by decide +kernel

/-- The characters without case in a text decide, but for the underscore, which names may gain. -/
theorem Unbroken.of_caseless (h : Unbroken s)
    (hm : ∀ x, isCaseless x = true → x ≠ '_' → x ∈ t.toList → x ∈ s.toList) : Unbroken t :=
  ⟨fun hc => h.1 (hm ' ' isCaseless_space (by decide) hc),
    fun hc => h.2 (hm '\n' isCaseless_newline (by decide) hc)⟩

theorem Unbroken.ite {c : Prop} [Decidable c] (hs : Unbroken s) (ht : Unbroken t) :
    Unbroken (if c then s else t) := by
  split <;> assumption

theorem unbroken_of_word (h : Schema.Lexical.WordRun s.toList) : Unbroken s := by
  constructor
  · intro hc
    exact absurd (h.isBreak_eq_false hc) (by decide +kernel)
  · intro hc
    exact absurd (h.isBreak_eq_false hc) (by decide +kernel)

theorem Unbroken.upperCamel (h : Unbroken s) : Unbroken (upperCamel s) := by
  refine h.of_caseless fun x hx hu hc => ?_
  rwa [Naming.upperCamel, String.toList_ofList, mem_camelFrom_iff hx hu] at hc

theorem Unbroken.snake (h : Unbroken s) : Unbroken (snake s) := by
  refine h.of_caseless fun x hx hu hc => ?_
  rw [Naming.snake, String.toList_ofList, mem_lowercase_iff hx] at hc
  exact (mem_splitWords hc).resolve_left hu

theorem Unbroken.bare (h : Unbroken s) : Unbroken (bare s) :=
  h.of_subset (bare_isSuffix s).subset

/-! ## Types -/

theorem Unbroken.elementType (h : Unbroken s) : Unbroken (elementType s) := by
  refine .ite (h.of_subset ?_) h
  rw [String.toList_ofList]
  exact List.drop_subset _ _

theorem Unbroken.singleType (h : Unbroken s) : Unbroken (singleType s) := by
  rw [Skeleton.singleType]
  cases hs : scalarType? s with
  | none => exact .append (by decide) h
  | some type =>
    unfold scalarType? at hs
    split at hs <;> cases hs <;> decide

theorem Unbroken.goType (h : Unbroken s) : Unbroken (goType s) :=
  .ite (.append (by decide) h.elementType.singleType) h.singleType

theorem unbroken_packageName {default : String} (directory : String) (h : Unbroken default) :
    Unbroken (packageName directory default) := by
  have inside {c : Char} (hc : startsIdentifier c = false ∧ continuesIdentifier c = false)
      {name : String} (hn : isIdentifier name = true) : c ∉ name.toList := by
    unfold isIdentifier at hn
    split at hn
    · cases hn
    · next d ds he =>
      rw [Bool.and_eq_true, List.all_eq_true] at hn
      rw [he, List.mem_cons, not_or]
      refine ⟨?_, fun hm => ?_⟩
      · rintro rfl
        exact Bool.false_ne_true (hc.1.symm.trans hn.1)
      · exact Bool.false_ne_true (hc.2.symm.trans (hn.2 c hm))
  rw [Skeleton.packageName]
  split
  · next hn => exact ⟨inside (by decide +kernel) hn, inside (by decide +kernel) hn⟩
  · exact h

end Unbroken

/-! ## Messages -/

structure Model.Message.Unbroken (m : Message) : Prop where
  name : ServiceScaffold.Unbroken m.name
  fields : ∀ f ∈ m.fields, ServiceScaffold.Unbroken f.name ∧ ServiceScaffold.Unbroken f.type

theorem unbroken_declaredMessage {m : Schema.Message} (h : m.Spelled) :
    (declaredMessage m.name m.elements).Unbroken := by
  refine ⟨unbroken_of_word h.name, fun f hf => ?_⟩
  obtain ⟨d, hd, rfl⟩ := List.mem_map.1 hf
  have hs := h.fields d hd
  rw [declaredField_eq]
  refine ⟨unbroken_of_word hs.name, ?_⟩
  have hbare := (unbroken_of_word hs.type).bare
  exact .ite (.append (by decide) hbare) hbare

theorem unbroken_declaredMessages {file : Schema.File} (h : file.Spelled) :
    ∀ m ∈ file.messages.flatMap declaredMessages, m.Unbroken := by
  rw [declaredMessages_eq_map]
  intro m hm
  obtain ⟨declared, hd, rfl⟩ := List.mem_map.1 hm
  exact unbroken_declaredMessage (h.messages declared hd)

/-- No name and no type in the messages of a text has a space or a line feed. -/
theorem unbroken_of_ofText {text source : String} {e : Extraction}
    (h : Extraction.ofText text source = .ok e) :
    ∀ s ∈ e.services, ∀ m ∈ s.messages, m.Unbroken := by
  obtain ⟨file, hf, hs⟩ := services_of_ofText h
  intro s hmem
  rw [hs] at hmem
  obtain ⟨d, _, rfl⟩ := List.mem_map.1 hmem
  exact unbroken_declaredMessages (Schema.spelled_of_ofText hf)

/-! ## Lines -/

/-- A field whose parts are unbroken, whatever a space separates in its tag and its comment. -/
structure Skeleton.StructField.Unbroken (f : StructField) : Prop where
  name : ServiceScaffold.Unbroken f.name
  type : ServiceScaffold.Unbroken f.type
  tag : ∀ tag ∈ f.tag, '\n' ∉ tag.toList
  comment : ∀ comment ∈ f.comment, '\n' ∉ comment.toList

theorem newline_not_mem_behind (mark : String) {o : Option String} (hm : '\n' ∉ mark.toList)
    (h : ∀ text ∈ o, '\n' ∉ text.toList) : '\n' ∉ (behind mark o).toList := by
  cases o with
  | none => exact List.not_mem_nil
  | some text => simp [behind, hm, h text rfl]

theorem single_struct {s : Struct} (hn : Unbroken s.name) (hf : ∀ f ∈ s.fields, f.Unbroken) :
    s.lines.Single := by
  have fields : Lines.Single (s.fields.map StructField.line) := by
    intro line hl
    obtain ⟨f, hmem, rfl⟩ := List.mem_map.1 hl
    obtain ⟨name, type, tag, comment⟩ := hf f hmem
    have htag := newline_not_mem_behind " " (by decide) tag
    have hcomment := newline_not_mem_behind " // " (by decide) comment
    simp [StructField.line, name.2, type.2, htag, hcomment]
  rw [Struct.lines_eq]
  simp [fields, structHead, hn.2, openBrace, closeBrace]

theorem eq_of_mem_comment? {text comment : String} (h : comment ∈ comment? text) :
    comment = text := by
  unfold comment? at h
  split at h <;> cases h
  rfl

theorem Model.Field.unbroken_typeName {f : Field} (h : Unbroken f.type) : Unbroken f.typeName :=
  .ite (by decide) h.elementType

theorem unbroken_domainFields {m : Message} (h : m.Unbroken) :
    ∀ f ∈ (Domain.modelStruct m).fields, f.Unbroken := by
  intro f hf
  obtain ⟨d, hd, rfl⟩ := List.mem_map.1 hf
  obtain ⟨name, type⟩ := h.fields d hd
  refine ⟨name.upperCamel, type.goType, fun tag ht => absurd ht (Option.not_mem_none tag),
    fun comment hc => ?_⟩
  exact eq_of_mem_comment? hc ▸ (Field.unbroken_typeName type).2

theorem unbroken_stampFields : ∀ f ∈ Persistence.stampFields, f.Unbroken := by
  have type : Unbroken "time.Time" := by decide
  have stamp {name : String} (h : Unbroken name) :
      StructField.Unbroken ⟨name, "time.Time", none, none⟩ :=
    ⟨h, type, fun tag ht => absurd ht (Option.not_mem_none tag),
      fun comment hc => absurd hc (Option.not_mem_none comment)⟩
  intro f hf
  simp only [Persistence.stampFields, List.mem_cons, List.not_mem_nil, or_false] at hf
  rcases hf with rfl | rfl
  · exact stamp (by decide)
  · exact stamp (by decide)

theorem unbroken_persistenceFields {m : Message} (h : m.Unbroken) :
    ∀ f ∈ (Persistence.modelStruct m).fields, f.Unbroken := by
  intro f hf
  rcases List.mem_append.1 hf with hf | hf
  · obtain ⟨d, hd, rfl⟩ := List.mem_map.1 hf
    obtain ⟨name, type⟩ := h.fields d hd
    refine ⟨name.upperCamel, type.goType, fun tag ht => ?_, fun comment hc => ?_⟩
    · cases ht
      simp [Persistence.jsonTag, name.2]
    · exact eq_of_mem_comment? hc ▸ (Field.unbroken_typeName type).2
  · exact unbroken_stampFields f hf

theorem single_domainModel {m : Message} (h : m.Unbroken) : (Domain.modelLines m).Single := by
  have struct := single_struct (s := Domain.modelStruct m) h.name (unbroken_domainFields h)
  simp [Domain.modelLines, h.name.2, struct]

theorem single_persistenceModel {m : Message} (h : m.Unbroken) :
    (Persistence.modelLines m).Single := by
  have struct := single_struct (s := Persistence.modelStruct m) h.name (unbroken_persistenceFields h)
  have table : '\n' ∉ (Persistence.tableName m).toList := h.name.snake.2
  simp [Persistence.modelLines, h.name.2, table, struct, openBrace, closeBrace]

theorem structs?_blank : Lines.structs? [""] = some [] := by
  simp [Lines.structs?, structName?, enclosed?]

section Models

variable {s : Service} (hm : ∀ m ∈ s.messages, m.Unbroken)
include hm

/-- The structs of a file that has one for each distinct message. -/
theorem structsIn_models {lines : Lines} (single : lines.Single) {struct : Message → Struct}
    (unbroken : ∀ m : Message, m.Unbroken → ∀ f ∈ (struct m).fields, f.Unbroken)
    (blocks : Lines.structs? (lines ++ [""]) =
      (Lines.structs? [""]).map (s.distinctMessages.map (Struct.block ∘ struct) ++ ·)) :
    structsIn lines.text = some (s.distinctMessages.map (Struct.shape ∘ struct)) := by
  rw [structs?_blank, Option.map_some, List.append_nil, ← List.map_map] at blocks
  rw [← List.map_map]
  refine structsIn_text single blocks fun st hs f hf => ?_
  obtain ⟨m, h, rfl⟩ := List.mem_map.1 hs
  obtain ⟨name, type, _⟩ := unbroken m (hm m (s.distinctMessages_subset h)) f hf
  exact ⟨name.1, type.1⟩

variable {packageName : String} (hp : Unbroken packageName)
include hp

theorem single_domainModelFile : (Domain.modelFile s packageName).Single := by
  have models : Lines.Single (s.distinctMessages.flatMap Domain.modelLines) :=
    single_flatMap fun m h => single_domainModel (hm m (s.distinctMessages_subset h))
  simp [Domain.modelFile, models, clause, hp.2]

theorem structsIn_domainModels : structsIn (Domain.modelFile s packageName).text =
    some (s.distinctMessages.map (Struct.shape ∘ Domain.modelStruct)) :=
  structsIn_models hm (single_domainModelFile hm hp) (fun _ => unbroken_domainFields)
    (structs?_domainModels s _ _)

theorem structsIn_persistenceModels : structsIn (Persistence.modelFile s packageName).text =
    some (s.distinctMessages.map (Struct.shape ∘ Persistence.modelStruct)) := by
  have models : Lines.Single (s.distinctMessages.flatMap Persistence.modelLines) :=
    single_flatMap fun m h => single_persistenceModel (hm m (s.distinctMessages_subset h))
  refine structsIn_models hm ?_ (fun _ => unbroken_persistenceFields)
    (structs?_persistenceModels s _ _)
  simp [Persistence.modelFile, models, clause, hp.2]

end Models

/-! ## Layers -/

/-- The name and the type of a field in Go source. -/
def shownField (f : Field) : String × String :=
  (upperCamel f.name, goType f.type)

/-- The fields that a layer adds to every struct. -/
def Layer.stamps : Layer → List (String × String)
  | domain => []
  | persistence => [("CreatedAt", "time.Time"), ("UpdatedAt", "time.Time")]

/-- Messages by their names, each with its own fields and those that the layer adds. -/
def Layer.shownMessages (l : Layer) (s : Service) : List (String × List (String × String)) :=
  s.messageNames.map fun n => (n, (s.fieldsOf n).map shownField ++ l.stamps)

theorem Layer.unbroken_packageName (l : Layer) (o : Options) : Unbroken (l.packageName o) := by
  refine ServiceScaffold.unbroken_packageName _ ?_
  cases l <;> decide

theorem structsIn_modelFile {s : Service} (hm : ∀ m ∈ s.messages, m.Unbroken) (l : Layer)
    (o : Options) : structsIn (l.modelFile o s).text = some (l.shownMessages s) := by
  have hp := l.unbroken_packageName o
  have shown := s.map_distinctMessages fun fields => fields.map shownField ++ l.stamps
  rw [Layer.shownMessages, ← shown]
  cases l with
  | domain =>
    rw [Layer.modelFile, structsIn_domainModels hm hp]
    refine congrArg some (List.map_congr_left fun m _ => ?_)
    simp [Struct.shape, Domain.modelStruct, Domain.modelField, shownField, Layer.stamps]
  | persistence =>
    rw [Layer.modelFile, structsIn_persistenceModels hm hp]
    refine congrArg some (List.map_congr_left fun m _ => ?_)
    simp [Struct.shape, Persistence.modelStruct, Persistence.modelField, Persistence.stampFields,
      shownField, Layer.stamps]

/-! ## Warnings -/

/-- A warning for each message that repeats the name of one before it, in the order of the
declarations. -/
def Model.Service.dueRepetitions (s : Service) : List Warning :=
  (withOneInFront Message.name s.messages).map fun m => .repeatedMessage m.name

/-- Services with the same messages are warned of through any of them. -/
theorem generate_warnings_of_mem {services : List Service} {s : Service} (hs : s ∈ services)
    (hm : ∀ t ∈ services, t.messages = s.messages) (l : Layer) (o : Options) (d : Files.Disk) :
    (generate l services o d).warnings =
      if (d.makeDirectories (l.directory o).toList).1 = none then s.dueRepetitions else [] := by
  obtain ⟨first, rest, rfl⟩ := List.exists_cons_of_ne_nil (List.ne_nil_of_mem hs)
  have hfirst : first.repetitions = s.dueRepetitions := by
    rw [Service.repetitions_eq, hm first List.mem_cons_self, Service.dueRepetitions]
  rw [generate_warnings_eq]
  simp [hfirst]

/-- The models of a text are read back from the source of either layer, and a warning names every
message that repeats the name of one before it: a run logs these warnings and no others, once it has
seen to its directory. -/
theorem ofText_models_read {text source : String} {e : Extraction}
    (h : Extraction.ofText text source = .ok e) (l : Layer) (o : Options) :
    ∀ s ∈ e.services, structsIn (l.modelFile o s).text = some (l.shownMessages s) ∧
      s.repetitions = s.dueRepetitions ∧
      ∀ d, (generate l e.services o d).warnings =
        if (d.makeDirectories (l.directory o).toList).1 = none then s.dueRepetitions else [] := by
  intro s hs
  refine ⟨structsIn_modelFile (unbroken_of_ofText h s hs) l o, s.repetitions_eq, fun d => ?_⟩
  obtain ⟨_, _, hd⟩ := Extraction.exists_declarations_of_ofText h
  have shared := fun t ht => Extraction.ofDeclarations_messages_eq hd t ht s hs
  exact generate_warnings_of_mem hs shared l o d

/-- A message whose name a nested one repeats, and fields of a declared and of a plain type. -/
def repeatedText : String :=
  "message A { repeated .p.B the_bs = 1; bytes raw = 2; message A { } message B { } } service S { }"

def repeatedFile : Schema.File :=
  [.message ⟨"A",
     [.statement (.field ⟨".p.B", "the_bs", 1, true, .repeated⟩),
      .statement (.field ⟨"bytes", "raw", 2, false, .bare⟩), .message "A" [], .message "B" []]⟩,
   .service ⟨"S", []⟩]

theorem ofText_models_read_repeated :
    ∃ e s, Extraction.ofText repeatedText "a.proto" = .ok e ∧ e.services = [s] ∧
      structsIn (Layer.persistence.modelFile .default s).text =
        some [("A", [("TheBs", "[]*B"), ("Raw", "[]byte"), ("CreatedAt", "time.Time"),
            ("UpdatedAt", "time.Time")]),
          ("B", [("CreatedAt", "time.Time"), ("UpdatedAt", "time.Time")])] ∧
      s.repetitions = [.repeatedMessage "A"] ∧
      (generate .persistence e.services .default ⟨[], []⟩).warnings = [.repeatedMessage "A"] := by
  have hf : Schema.File.ofText repeatedText = .ok repeatedFile := by with_unfolding_all rfl
  have he : Extraction.ofText repeatedText "a.proto" =
      .ok ⟨[declaredService repeatedFile "a.proto" ⟨"S", []⟩], [], "a.proto"⟩ := by
    rw [Extraction.ofText, hf]
    exact (ofDeclarations_eq (by decide) "a.proto").trans (by decide +kernel)
  obtain ⟨models, repetitions, warnings⟩ :=
    ofText_models_read he .persistence .default _ List.mem_cons_self
  refine ⟨_, _, he, rfl, models.trans ?_, repetitions.trans ?_, (warnings ⟨[], []⟩).trans ?_⟩
  · decide +kernel
  · decide +kernel
  · decide +kernel

end ServiceScaffold

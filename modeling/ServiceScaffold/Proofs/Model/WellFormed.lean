import Mathlib.Data.List.Forall2
import ServiceScaffold.Proofs.Model.Declared
import ServiceScaffold.Proofs.Naming.Separators
import ServiceScaffold.Proofs.Schema.Words

/-!
# Well formed models

What the generators may rely on in the model of a text: the numbers and types of fields, the two
names of each request and response type, and names without separators. It comes from the words of
the schema (`File.Spelled`) and holds whatever the schema declares (`ofText_wellFormed`). One thing
it does not give is a name that is not empty: a service that is named by underscores alone has none
(`ofText_named_iff`).
-/
namespace ServiceScaffold.Model
open Naming Text Schema.Lexical
open Schema (directFields messagesIn)

/-! ## Well formed -/

/-- A field of a model with the field of the schema it comes from. -/
structure Field.WellFormed (declared : Schema.Field) (f : Field) : Prop where
  name : f.name = declared.name
  number : 1 ≤ f.number
  type : ∃ base, f.type = (if declared.label = .repeated then "[]" else "") ++ base ∧
    base ≠ "" ∧ '.' ∉ base.toList ∧ ¬ "[]".toList <+: base.toList
  repeated : f.isRepeated = decide (declared.label = .repeated)
  basic : f.isBasic = true ↔ f.typeName = ""
  typeName : f.isBasic = false → f.type = (if f.isRepeated then "[]" else "") ++ f.typeName

/-- The full and the short name of the request or response type of a method. -/
structure TypeNames (suffix full short : String) : Prop where
  nonempty : full ≠ ""
  relative : full.toList.head? ≠ some '.'
  undotted : '.' ∉ short.toList
  ending : short.toList <:+ full.toList ∨ (short ++ suffix).toList <:+ full.toList

structure Method.WellFormed (m : Method) : Prop where
  undotted : '.' ∉ m.name.toList
  joined : '_' ∉ m.name.toList
  request : TypeNames "Request" m.requestFull m.requestShort
  response : TypeNames "Reply" m.responseFull m.responseShort

/-- A service of the model of a file. Its messages are those of the file, with the fields that are
declared directly in each of them. -/
structure Service.WellFormed (file : Schema.File) (s : Service) : Prop where
  undotted : '.' ∉ s.name.toList
  joined : '_' ∉ s.name.toList
  methods : ∀ m ∈ s.methods, m.WellFormed
  messages : List.Forall₂ (fun declared m => m.name = declared.name ∧
    List.Forall₂ Field.WellFormed (directFields declared.elements) m.fields)
      file.allMessages s.messages

/-! ## Fields -/

theorem bare_ne_empty {name : String} (h : WordRun name.toList) : bare name ≠ "" := by
  intro he
  refine h.afterLast_ne_nil ?_
  rw [bare, ← String.toList_inj, String.toList_ofList] at he
  exact he

theorem dot_not_mem_bare (name : String) : '.' ∉ (bare name).toList := by
  rw [bare, String.toList_ofList]
  exact not_mem_afterLast '.' _

theorem bare_isSuffix (name : String) : (bare name).toList <:+ name.toList := by
  rw [bare, String.toList_ofList]
  exact afterLast_suffix '.' _

/-- No word starts with the mark of a repeated field. -/
theorem isRepeated_bare {name : String} (h : WordRun name.toList) : isRepeated (bare name) = false := by
  refine Bool.eq_false_iff.2 ?_
  intro hp
  have hm : '[' ∈ (bare name).toList :=
    (List.isPrefixOf_iff_prefix.1 hp).mem (List.mem_cons_self (a := '[') (l := [']']))
  exact h.lbracket_not_mem ((bare_isSuffix name).mem hm)

theorem isRepeated_marked (base : String) : isRepeated ("[]" ++ base) = true := by
  rw [isRepeated, String.toList_append]
  exact List.isPrefixOf_iff_prefix.2 (List.prefix_append _ _)

theorem elementType_marked (base : String) : elementType ("[]" ++ base) = base := by
  rw [elementType, if_pos (isRepeated_marked base), String.toList_append]
  exact String.ofList_toList

theorem isRepeated_fieldType {name : String} (h : WordRun name.toList) (repeated : Bool) :
    isRepeated (fieldType name repeated) = repeated := by
  cases repeated with
  | false => exact isRepeated_bare h
  | true => exact isRepeated_marked _

theorem elementType_fieldType {name : String} (h : WordRun name.toList) (repeated : Bool) :
    elementType (fieldType name repeated) = bare name := by
  cases repeated with
  | false => exact if_neg (by simp [fieldType, isRepeated_bare h])
  | true => exact elementType_marked _

theorem fieldType_eq (name : String) (repeated : Bool) :
    fieldType name repeated = (if repeated then "[]" else "") ++ bare name := by
  cases repeated with
  | false => exact (String.empty_append).symm
  | true => rfl

theorem wellFormed_declaredField {f : Schema.Field} (h : f.Spelled) :
    (declaredField f).WellFormed f := by
  have hr : (declaredField f).isRepeated = f.repeated := by
    rw [declaredField_eq]
    exact isRepeated_fieldType h.type f.repeated
  have he : elementType (declaredField f).type = bare f.typeName := by
    rw [declaredField_eq]
    exact elementType_fieldType h.type f.repeated
  have htype : (declaredField f).type = (if f.repeated then "[]" else "") ++ bare f.typeName := by
    rw [declaredField_eq]
    exact fieldType_eq f.typeName f.repeated
  refine ⟨rfl, h.number, ⟨bare f.typeName, ?_, bare_ne_empty h.type, dot_not_mem_bare _, ?_⟩,
    hr.trans h.repeated, ?_, ?_⟩
  · rw [htype, h.repeated]
    simp
  · intro hp
    exact Bool.eq_false_iff.1 (isRepeated_bare h.type) (List.isPrefixOf_iff_prefix.2 hp)
  · rw [Field.typeName, he]
    constructor
    · exact fun hb => if_pos hb
    · intro ht
      by_contra hb
      rw [if_neg hb] at ht
      exact bare_ne_empty h.type ht
  · intro hb
    rw [Field.typeName, hb, hr, he, htype]
    rfl

/-! ## Methods -/

theorem relative_cases {name : String} (h : WordRun name.toList) :
    ∃ c cs, (relative name).toList = c :: cs ∧ c ≠ '.' := by
  obtain ⟨c, cs, hc, hs⟩ := h.starts_cases
  have hne := ne_dot_of_startsName hc
  refine ⟨c, cs, ?_, hne⟩
  unfold relative
  rcases hs with hs | hs
  · split
    · next ds hd =>
      rw [hs] at hd
      cases hd
      exact absurd rfl hne
    · exact hs
  · rw [hs]
    exact String.toList_ofList

/-- The bare name ends the qualified one; it is the short name, or the short name and the suffix. -/
theorem typeNames {name : String} (h : WordRun name.toList) (suffix : String) :
    TypeNames suffix (relative name) (shortName suffix name) := by
  obtain ⟨c, cs, hc, hne⟩ := relative_cases h
  have hsuffix : (bare name).toList <:+ (relative name).toList :=
    bare_relative name ▸ bare_isSuffix (relative name)
  have hcases : shortName suffix name = bare name ∨ shortName suffix name ++ suffix = bare name := by
    unfold shortName withoutSuffix Naming.dropSuffix?
    cases hd : Text.dropSuffix? suffix.toList (bare name).toList with
    | none => exact .inl rfl
    | some r =>
      refine .inr ?_
      rw [← String.toList_inj, String.toList_append, dropSuffix?_eq_some.1 hd]
      simp
  constructor
  · intro he
    rw [he] at hc
    cases hc
  · rw [hc]
    exact fun he => hne (Option.some.inj he)
  · intro hm
    refine dot_not_mem_bare name ?_
    rcases hcases with he | he
    · exact he ▸ hm
    · rw [← he, String.toList_append]
      exact List.mem_append_left _ hm
  · rcases hcases with he | he
    · exact .inl (he ▸ hsuffix)
    · exact .inr (he ▸ hsuffix)

theorem wellFormed_ofRpc {r : Schema.Rpc} (h : r.Spelled) : (Method.ofRpc r).WellFormed := by
  unfold Method.ofRpc
  constructor
  · exact dot_not_mem_declared r.name
  · exact underscore_not_mem_declared r.name
  · dsimp only
    exact typeNames h.request requestSuffix
  · dsimp only
    exact typeNames h.response replySuffix

/-! ## Services -/

mutual

theorem elementMessages_eq_map : ∀ e : Schema.MessageElement,
    elementMessages e = e.messages.map fun m => declaredMessage m.name m.elements
  | .message name elements => by
    rw [elementMessages, Schema.MessageElement.messages, nestedDeclared_eq_map elements]
    rfl
  | .statement _ => rfl
  | .oneof _ => rfl
  | .setting _ => rfl

theorem nestedDeclared_eq_map : ∀ es : List Schema.MessageElement,
    nestedDeclared es = (messagesIn es).map fun m => declaredMessage m.name m.elements
  | [] => rfl
  | e :: es => by
    rw [nestedDeclared, messagesIn, elementMessages_eq_map e, nestedDeclared_eq_map es,
      List.map_append]

end

/-- The messages of the model, one for each message of the file. -/
theorem declaredMessages_eq_map (f : Schema.File) :
    f.messages.flatMap declaredMessages =
      f.allMessages.map fun m => declaredMessage m.name m.elements := by
  rw [Schema.File.allMessages, List.map_flatMap]
  refine List.flatMap_congr ?_
  intro m _
  rw [declaredMessages, nestedDeclared_eq_map, List.map_cons]

theorem wellFormed_declaredService {f : Schema.File} (h : f.Spelled) (source : String)
    {s : Schema.Service} (hs : s ∈ f.services) : (declaredService f source s).WellFormed f := by
  refine ⟨dot_not_mem_declared s.name, underscore_not_mem_declared s.name, ?_, ?_⟩
  · intro m hm
    obtain ⟨r, hr, rfl⟩ := List.mem_map.1 hm
    exact wellFormed_ofRpc ((h.services s hs).rpcs r hr)
  · have hm : (declaredService f source s).messages =
        f.allMessages.map fun m => declaredMessage m.name m.elements := declaredMessages_eq_map f
    rw [hm, List.forall₂_map_right_iff, List.forall₂_same]
    intro m hm
    refine ⟨rfl, ?_⟩
    rw [declaredMessage, List.forall₂_map_right_iff, List.forall₂_same]
    intro d hd
    exact wellFormed_declaredField ((h.messages m hm).fields d hd)

/-- A text that is accepted declares a file, and each of its services is a well formed model of that
file. -/
theorem ofText_wellFormed {text source : String} {e : Extraction}
    (h : Extraction.ofText text source = .ok e) :
    ∃ file, Schema.File.ofText text = .ok file ∧ ∀ s ∈ e.services, s.WellFormed file := by
  obtain ⟨file, hf, hs⟩ := services_of_ofText h
  refine ⟨file, hf, ?_⟩
  intro s hm
  rw [hs] at hm
  obtain ⟨d, hd, rfl⟩ := List.mem_map.1 hm
  exact wellFormed_declaredService (Schema.spelled_of_ofText hf) source hd

/-- A repeated field of a nested type, and a method with an absolute and a plain type. -/
def shelfText : String :=
  "message S { repeated .p.B b = 0x1; } service a_b.v1 { rpc l(.p.LRequest) returns (S); }"

def shelf : Schema.File :=
  [.message ⟨"S", [.statement (.field ⟨".p.B", "b", 1, true, .repeated⟩)]⟩,
   .service ⟨"a_b.v1", [.rpc ⟨"l", ".p.LRequest", "S", false, false, []⟩]⟩]

theorem ofText_wellFormed_shelf :
    Schema.File.ofText shelfText = .ok shelf ∧
      ∃ e, Extraction.ofText shelfText "s.proto" = .ok e ∧
        ∃ file, Schema.File.ofText shelfText = .ok file ∧ ∀ s ∈ e.services, s.WellFormed file := by
  have hf : Schema.File.ofText shelfText = .ok shelf := by with_unfolding_all rfl
  have he : Extraction.ofText shelfText "s.proto" =
      .ok ⟨shelf.services.map (declaredService shelf "s.proto"),
        [.missingSuffix "L" "S" "Reply"], "s.proto"⟩ := by
    rw [Extraction.ofText, hf]
    exact (ofDeclarations_eq (by decide) "s.proto").trans (by decide +kernel)
  exact ⟨hf, _, he, ofText_wellFormed he⟩

/-! ## Names -/

/-- A service of the model has a name exactly when the name it was declared by has more than
underscores in front of its first dot. -/
theorem ofText_named_iff {text source : String} {e : Extraction}
    (h : Extraction.ofText text source = .ok e) :
    ∃ file, Schema.File.ofText text = .ok file ∧
      List.Forall₂ (fun declared s => s.name ≠ "" ↔
        ∃ c ∈ beforeFirst '.' declared.name.toList, c ≠ '_') file.services e.services ∧
      ((∀ s ∈ e.services, s.name ≠ "") ↔
        ∀ declared ∈ file.services, ∃ c ∈ beforeFirst '.' declared.name.toList, c ≠ '_') := by
  obtain ⟨file, hf, hs⟩ := services_of_ofText h
  have named (d : Schema.Service) : (declaredService file source d).name ≠ "" ↔
      ∃ c ∈ beforeFirst '.' d.name.toList, c ≠ '_' := by
    show declared d.name ≠ "" ↔ _
    rw [ne_eq, declared_eq_empty_iff]
    simp
  refine ⟨file, hf, ?_, ?_⟩
  · rw [hs, List.forall₂_map_right_iff, List.forall₂_same]
    exact fun d _ => named d
  · rw [hs, List.forall_mem_map]
    exact forall₂_congr fun d _ => named d

theorem ofText_named_iff_two :
    ∃ e, Extraction.ofText "service a_b.v1 { } service __ { }" "m.proto" = .ok e ∧
      e.services.map Service.name = ["AB", ""] ∧
      ∃ file, Schema.File.ofText "service a_b.v1 { } service __ { }" = .ok file ∧
        List.Forall₂ (fun declared s => s.name ≠ "" ↔
          ∃ c ∈ beforeFirst '.' declared.name.toList, c ≠ '_') file.services e.services ∧
        ((∀ s ∈ e.services, s.name ≠ "") ↔
          ∀ declared ∈ file.services, ∃ c ∈ beforeFirst '.' declared.name.toList, c ≠ '_') :=
  ⟨_, by with_unfolding_all rfl, by decide +kernel, ofText_named_iff (by with_unfolding_all rfl)⟩

/-- An underscore is a name in a schema, and so is one with a dot in front. -/
theorem accepted_without_name :
    (∃ e, Extraction.ofText "service _ { }" "" = .ok e ∧ ∃ s ∈ e.services, s.name = "") ∧
    ∃ e, Extraction.ofText "service .a { }" "" = .ok e ∧ ∃ s ∈ e.services, s.name = "" :=
  ⟨⟨_, by with_unfolding_all rfl, _, List.mem_cons_self, by decide +kernel⟩,
    _, by with_unfolding_all rfl, _, List.mem_cons_self, by decide +kernel⟩

end ServiceScaffold.Model

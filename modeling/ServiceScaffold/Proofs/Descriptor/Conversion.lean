import ServiceScaffold.Proofs.Descriptor.Encoding

/-!
# What a conversion keeps

A compiled message that encodes the elements of a text is converted without fail, to one that
declares its plain fields (`compiledMessage`) and the nested messages that were not made up
(`keptMessages`). Either these are what the elements declare, and then the encoding is strict, or
a field or a message has been taken for a made-up one and is lost (`ElementsEncode.kept_or_lost`).
What is lost shows in the `weight`, the number of messages and fields.
-/
namespace ServiceScaffold.Descriptor
open Naming
open Schema (MessageElement directFields)
open Model (declaredField declaredMessage nestedDeclared)

/-! ## Roles -/

theorem mapEntry?_eq_some {m entry : Message} {d : Field} (h : m.mapEntry? d = some entry) :
    d.kind = .message ∧ d.cardinality = .repeated ∧ entry ∈ m.nested ∧
      entry.isMapEntry = true := by
  unfold Message.mapEntry? at h
  split at h
  · next hd =>
    have hm := List.mem_reverse.1 (List.mem_of_find?_eq_some h)
    exact ⟨hd.1, hd.2, List.mem_filter.1 hm⟩
  · cases h

theorem mapEntry?_ne_none {m entry : Message} {d : Field} {f : Schema.MapField}
    (he : entry ∈ m.nested) (hd : d.EncodesMap entry f) : m.mapEntry? d ≠ none := by
  have hs : (m.mapEntry? d).isSome = true := by
    rw [Message.mapEntry?, if_pos ⟨hd.kind, hd.repeated⟩, List.find?_isSome]
    exact ⟨entry, List.mem_reverse.2 (List.mem_filter.2 ⟨he, hd.isMapEntry⟩), by simp [hd.typeName]⟩
  intro hn
  rw [hn] at hs
  cases hs

theorem role_of_entry {m entry : Message} {d : Field} (h : m.mapEntry? d = some entry) :
    m.role d = .map entry := by
  simp [Message.role, h]

theorem Field.TypeEncodes.kind_ne_group {d : Field} {typeName : String}
    (h : d.TypeEncodes typeName) : d.kind ≠ .group := by
  intro hk
  cases h with
  | scalar hs _ => simp [hk, FieldKind.isScalar] at hs
  | named hs _ _ => simp [hk] at hs

theorem role_plain {m : Message} {d : Field} (h : m.mapEntry? d = none)
    (ho : d.oneofIndex = none ∨ d.explicitOptional = true) (hk : d.kind ≠ .group) :
    m.role d = .plain := by
  rcases ho with ho | ho <;> simp [Message.role, h, ho, hk]

theorem role_group {m : Message} {d : Field} (hk : d.kind = .group)
    (ho : d.oneofIndex = none) : m.role d = .group := by
  simp [Message.role, Message.mapEntry?, hk, ho]

theorem role_member {m : Message} {d : Field} {index : Int} (h : m.mapEntry? d = none)
    (ho : d.oneofIndex = some index) (he : d.explicitOptional = false) :
    m.role d = .member index := by
  simp [Message.role, h, ho, he]

theorem oneofName_of_getElem? {m : Message} {index : Nat} {name : String}
    (h : m.oneofs[index]? = some name) : m.oneofName index = .ok name := by
  have hi : ¬ (index : Int) < 0 := by omega
  simp [Message.oneofName, hi, h]

/-! ## Conversion of any message -/

def Message.isPlain (m : Message) (d : Field) : Bool :=
  match m.role d with
  | .plain => true
  | _ => false

/-- What the role of the field refers to is there. -/
def Message.Resolves (m : Message) (d : Field) : Prop :=
  match m.role d with
  | .map entry => 2 ≤ entry.fields.length
  | .member index => ∃ name, m.oneofName index = .ok name
  | _ => True

theorem mapField_ok {entry : Message} (h : 2 ≤ entry.fields.length) (d : Field) :
    ∃ f, mapField entry d = .ok f := by
  unfold mapField
  match he : entry.fields with
  | [] => simp [he] at h
  | [_] => simp [he] at h
  | key :: value :: _ => exact ⟨_, rfl⟩

/-- The plain fields of a message are the fields of what it is converted to, in the same order. -/
theorem fieldElements_ok {m : Message} {ds : List Field} (h : ∀ d ∈ ds, m.Resolves d)
    (seen : List Int) : ∃ es, m.fieldElements seen ds = .ok es ∧
      directFields es = (ds.filter m.isPlain).map Field.toSchema ∧ nestedDeclared es = [] := by
  induction ds generalizing seen with
  | nil => exact ⟨[], rfl, rfl, rfl⟩
  | cons d ds ih =>
    have hd : m.Resolves d := h d List.mem_cons_self
    have ht (seen) := ih (fun e he => h e (List.mem_cons_of_mem d he)) seen
    rw [Message.fieldElements, List.filter_cons]
    unfold Message.Resolves at hd
    unfold Message.isPlain at ht ⊢
    cases hr : m.role d with
    | map entry =>
      rw [hr] at hd
      obtain ⟨f, hf⟩ := mapField_ok hd d
      obtain ⟨es, he, hes⟩ := ht seen
      exact ⟨.statement (.mapField f) :: es, by simp only [hf, he]; rfl, hes⟩
    | member index =>
      rw [hr] at hd
      obtain ⟨name, hn⟩ := hd
      by_cases hs : index ∈ seen
      · obtain ⟨es, he, hes⟩ := ht seen
        exact ⟨es, by simp only [hs, if_true, he], hes⟩
      · obtain ⟨es, he, hes⟩ := ht (index :: seen)
        exact ⟨.oneof ⟨name, _⟩ :: es, by simp only [hs, if_false, hn, he]; rfl, hes⟩
    | group =>
      obtain ⟨es, he, hes⟩ := ht seen
      exact ⟨.statement (.group d.toGroup) :: es, by simp only [he]; rfl, hes⟩
    | plain =>
      obtain ⟨es, he, hes, hn⟩ := ht seen
      refine ⟨.statement (.field d.toSchema) :: es, by simp only [he]; rfl, ?_, hn⟩
      exact congrArg (d.toSchema :: ·) hes

theorem nestedDeclared_append (es fs : List MessageElement) :
    nestedDeclared (es ++ fs) = nestedDeclared es ++ nestedDeclared fs := by
  induction es with
  | nil => rfl
  | cons e es ih => simp [nestedDeclared, ih]

/-- What stands behind the fields and the nested messages is neither. -/
theorem closingElements_declare (m : Message) :
    directFields m.closingElements = [] ∧ nestedDeclared m.closingElements = [] := by
  have none : ∀ ss : List Schema.Statement, (∀ s ∈ ss, isUnfielded s = true) →
      directFields (ss.map .statement) = [] ∧ nestedDeclared (ss.map .statement) = [] := by
    intro ss hs
    induction ss with
    | nil => exact ⟨rfl, rfl⟩
    | cons s ss ih =>
      simp only [List.mem_cons, forall_eq_or_imp] at hs
      obtain ⟨hf, hn⟩ := ih hs.2
      cases s <;> first | exact ⟨hf, hn⟩ | exact absurd hs.1 (by simp [isUnfielded])
  refine none _ ?_
  intro s hs
  simp only [Message.closingStatements, List.mem_append, List.mem_map] at hs
  rcases hs with ((⟨_, _, rfl⟩ | ⟨_, _, rfl⟩) | ⟨_, _, rfl⟩) | ⟨_, _, rfl⟩ <;> rfl

/-! ## What a compiled message declares -/

/-- The message with its plain fields. -/
def compiledMessage (m : Message) : Model.Message :=
  ⟨m.name, (m.fields.filter m.isPlain).map fun d => declaredField d.toSchema⟩

/-- The messages that the conversion keeps, each before those nested in it. -/
def keptMessages (keep : Message → Bool) : List Message → List Model.Message
  | [] => []
  | m :: ms =>
    if keep m then
      compiledMessage m :: keptMessages (fun n => !m.isMadeUp n) m.nested ++ keptMessages keep ms
    else keptMessages keep ms
termination_by ms => sizeOf ms
decreasing_by
  · exact m.sizeOf_nested_lt ms
  all_goals exact sizeOf_tail_lt ..

/-- The parts of a message that has been converted declare what the message does. -/
theorem elements_ok {m : Message} (h : ∀ d ∈ m.fields, m.Resolves d)
    {inner : List MessageElement} (hf : directFields inner = [])
    (hn : nestedDeclared inner = keptMessages (fun n => !m.isMadeUp n) m.nested) :
    ∃ own, m.fieldElements [] m.fields = .ok own ∧
      declaredMessage m.name (own ++ inner ++ m.closingElements) = compiledMessage m ∧
      nestedDeclared (own ++ inner ++ m.closingElements) =
        keptMessages (fun n => !m.isMadeUp n) m.nested := by
  obtain ⟨own, ho, hof, hon⟩ := fieldElements_ok h []
  obtain ⟨hcf, hcn⟩ := closingElements_declare m
  refine ⟨own, ho, ?_, ?_⟩
  · have : directFields (own ++ inner ++ m.closingElements) = directFields own := by
      unfold directFields at hf hcf ⊢
      rw [List.filterMap_append, List.filterMap_append, hf, hcf, List.append_nil, List.append_nil]
    rw [declaredMessage, this, hof, compiledMessage, List.map_map]
    rfl
  · rw [nestedDeclared_append, nestedDeclared_append, hon, hn, hcn, List.nil_append,
      List.append_nil]

/-! ## Conversion of an encoding -/

variable {strict : Bool} {m : Message} {ds : List Field} {ns : List Message}
  {es : List MessageElement}

theorem ElementsEncode.entry_length (h : ElementsEncode strict m ds ns es) :
    ∀ n ∈ ns, n.isMapEntry = true → n.fields.length = 2 := by
  induction h with
  | nil => simp
  | field _ _ _ _ ih => exact ih
  | mapField _ _ _ ih => exact ih
  | group _ _ _ ih => exact ih
  | oneof _ _ _ ih => exact ih
  | unfielded _ _ ih => exact ih
  | setting _ ih => exact ih
  | message _ _ hm _ _ ih =>
    intro n hn he
    rcases List.mem_cons.1 hn with rfl | hn
    · rw [hm] at he; cases he
    · exact ih n hn he
  | madeUp hm _ ih =>
    intro n hn he
    rcases List.mem_cons.1 hn with rfl | hn
    · rcases hm with ⟨_, hl⟩ | ⟨hf, _⟩
      · exact hl
      · rw [hf] at he; cases he
    · exact ih n hn he

/-- A field that has a map entry type finds both parts of the entry. -/
theorem resolves_of_entry (hm : ∀ n ∈ m.nested, n.isMapEntry = true → n.fields.length = 2)
    {d : Field} (hn : m.mapEntry? d = none → m.Resolves d) : m.Resolves d := by
  cases he : m.mapEntry? d with
  | none => exact hn he
  | some entry =>
    obtain ⟨_, _, hmem, hentry⟩ := mapEntry?_eq_some he
    rw [Message.Resolves, role_of_entry he]
    exact Nat.le_of_eq (hm entry hmem hentry).symm

theorem MembersEncode.resolves {index : Nat} {name : String} {members : List Field}
    {fs : List Schema.Field} (h : MembersEncode index members fs)
    (hm : ∀ n ∈ m.nested, n.isMapEntry = true → n.fields.length = 2)
    (hi : m.oneofs[index]? = some name) : ∀ d ∈ members, m.Resolves d := by
  have member {d : Field} (ho : d.oneofIndex = some (index : Int))
      (he : d.explicitOptional = false) : m.Resolves d := by
    refine resolves_of_entry hm ?_
    intro hn
    rw [Message.Resolves, role_member hn ho he]
    exact ⟨name, oneofName_of_getElem? hi⟩
  induction h with
  | nil => simp
  | field _ ho he _ ih =>
    simp only [List.mem_cons, forall_eq_or_imp]
    exact ⟨member ho he, ih⟩
  | group _ ho he _ ih =>
    simp only [List.mem_cons, forall_eq_or_imp]
    exact ⟨member ho he, ih⟩

theorem ElementsEncode.resolves (h : ElementsEncode strict m ds ns es)
    (hm : ∀ n ∈ m.nested, n.isMapEntry = true → n.fields.length = 2) :
    ∀ d ∈ ds, m.Resolves d := by
  induction h with
  | nil => simp
  | field hd ho _ _ ih =>
    simp only [List.mem_cons, forall_eq_or_imp]
    refine ⟨resolves_of_entry hm fun hn => ?_, ih hm⟩
    rw [Message.Resolves, role_plain hn ho hd.type.kind_ne_group]
    trivial
  | mapField he hd _ ih =>
    simp only [List.mem_cons, forall_eq_or_imp]
    exact ⟨resolves_of_entry hm fun hn => absurd hn (mapEntry?_ne_none he hd), ih hm⟩
  | group _ hd _ ih =>
    simp only [List.mem_cons, forall_eq_or_imp]
    refine ⟨?_, ih hm⟩
    rw [Message.Resolves, role_group hd.kind hd.oneofIndex]
    trivial
  | oneof hi hd _ ih =>
    intro d hmem
    rcases List.mem_append.1 hmem with hmem | hmem
    · exact hd.resolves hm hi d hmem
    · exact ih hm d hmem
  | unfielded _ _ ih => exact ih hm
  | setting _ ih => exact ih hm
  | message _ _ _ _ _ ih => exact ih hm
  | madeUp _ _ ih => exact ih hm

theorem isMadeUp_of_makesUp {n : Message} (h : m.MakesUp n) (hn : n ∈ m.nested) :
    m.isMadeUp n = true := by
  rcases h with ⟨hm, _⟩ | ⟨_, hg⟩
  · have : n ∈ m.mapEntries := List.mem_filter.2 ⟨hn, hm⟩
    simp only [Message.isMadeUp, Bool.or_eq_true, decide_eq_true_eq]
    exact .inl (List.mem_map_of_mem this)
  · simp [Message.isMadeUp, hg]

/-- The nested messages of an encoding can be converted, and what comes out is `keptMessages`. -/
theorem ElementsEncode.nestedElements_ok (h : ElementsEncode strict m ds ns es)
    (hns : ∀ n ∈ ns, n ∈ m.nested) :
    ∃ inner, nestedElements (fun n => !m.isMadeUp n) ns = .ok inner ∧ directFields inner = [] ∧
      nestedDeclared inner = keptMessages (fun n => !m.isMadeUp n) ns := by
  induction h with
  | nil => exact ⟨[], by rw [nestedElements], rfl, by rw [keptMessages]; rfl⟩
  | field _ _ _ _ ih => exact ih hns
  | mapField _ _ _ ih => exact ih hns
  | group _ _ _ ih => exact ih hns
  | oneof _ _ _ ih => exact ih hns
  | unfielded _ _ ih => exact ih hns
  | setting _ ih => exact ih hns
  | @message m child inner ds ns es hc hs hm _ ihChild ih =>
    obtain ⟨tail, ht, htf, htn⟩ := ih fun n hn => hns n (List.mem_cons_of_mem child hn)
    rw [nestedElements, keptMessages]
    cases hk : m.isMadeUp child with
    | true => exact ⟨tail, by simpa [hk] using ht, htf, by simpa [hk] using htn⟩
    | false =>
      obtain ⟨deeper, hi, hif, hin⟩ := ihChild fun _ hn => hn
      obtain ⟨own, ho, hd, hn⟩ := elements_ok (hc.resolves hc.entry_length) hif hin
      refine ⟨.message child.name (own ++ deeper ++ child.closingElements) :: tail,
        by simp only [Bool.not_false, if_true, ho, hi, ht]; rfl, htf, ?_⟩
      simp only [Bool.not_false, if_true, nestedDeclared, Model.elementMessages]
      rw [hd, hn, htn]
  | @madeUp m n ds ns es hu _ ih =>
    have hk := isMadeUp_of_makesUp hu (hns n List.mem_cons_self)
    rw [nestedElements, keptMessages]
    simpa [hk] using ih fun k hk' => hns k (List.mem_cons_of_mem n hk')

theorem Message.Encodes.toSchema_ok {d : Message} {s : Schema.Message} (h : d.Encodes strict s) :
    ∃ c : Schema.Message, d.toSchema = .ok c ∧ Model.declaredMessages c =
      compiledMessage d :: keptMessages (fun n => !d.isMadeUp n) d.nested := by
  obtain ⟨inner, hi, hif, hin⟩ := h.elements.nestedElements_ok fun _ hn => hn
  obtain ⟨own, ho, hd, hn⟩ := elements_ok (h.elements.resolves h.elements.entry_length) hif hin
  refine ⟨⟨d.name, own ++ inner ++ d.closingElements⟩, ?_, ?_⟩
  · simp only [Message.toSchema, Message.elements, ho, hi]
    rfl
  · rw [Model.declaredMessages, hd, hn]

/-! ## What an encoding keeps -/

/-- The number of messages and of their fields. -/
def weight (ms : List Model.Message) : Nat :=
  ms.foldr (fun m n => m.fields.length + 1 + n) 0

theorem weight_cons (m : Model.Message) (ms : List Model.Message) :
    weight (m :: ms) = m.fields.length + 1 + weight ms :=
  rfl

theorem weight_append (ms ms' : List Model.Message) :
    weight (ms ++ ms') = weight ms + weight ms' := by
  induction ms with
  | nil => simp [weight]
  | cons m ms ih => rw [List.cons_append, weight_cons, weight_cons, ih, ← Nat.add_assoc]

/-- The fields and the nested messages of the compiled message declare what the elements do. -/
structure Kept (m : Message) (ds : List Field) (ns : List Message) (es : List MessageElement) :
    Prop where
  fields : (ds.filter m.isPlain).map (fun d => declaredField d.toSchema) =
    (directFields es).map declaredField
  nested : keptMessages (fun n => !m.isMadeUp n) ns = nestedDeclared es

/-- Something that the elements declare is missing from the compiled message. -/
def Lost (m : Message) (ds : List Field) (ns : List Message) (es : List MessageElement) : Prop :=
  (ds.filter m.isPlain).length + weight (keptMessages (fun n => !m.isMadeUp n) ns) <
    (directFields es).length + weight (nestedDeclared es)

/-- Either the names stay apart and all is kept, or, where they need not stay apart, something
is lost. -/
def KeptOrLost (strict : Bool) (m : Message) (ds : List Field) (ns : List Message)
    (es : List MessageElement) : Prop :=
  ElementsEncode true m ds ns es ∧ Kept m ds ns es ∨ strict = false ∧ Lost m ds ns es

theorem Kept.weight_eq (h : Kept m ds ns es) :
    (ds.filter m.isPlain).length + weight (keptMessages (fun n => !m.isMadeUp n) ns) =
      (directFields es).length + weight (nestedDeclared es) := by
  have := congrArg List.length h.fields
  simp only [List.length_map] at this
  rw [this, h.nested]

theorem Kept.compiledMessage_eq {child : Message}
    (h : Kept child child.fields child.nested es) :
    compiledMessage child = declaredMessage child.name es := by
  rw [compiledMessage, h.fields, declaredMessage]

theorem declaredField_toSchema {d : Field} {f : Schema.Field} (h : d.Encodes f) :
    declaredField d.toSchema = declaredField f := by
  have ht : bare d.schemaType = bare f.typeName := by
    cases h.type with
    | scalar hk hn =>
      rw [← hn, Field.schemaType, if_neg]
      rintro ⟨hd, _⟩
      rcases hd with hd | hd <;> simp [hd, FieldKind.isScalar] at hk
    | named hk hq hn =>
      have hne : d.typeName ≠ "" := by
        intro e
        simp [IsQualified, e] at hq
      rw [← hn, Field.schemaType, if_pos ⟨hk, hne⟩]
  rw [Model.declaredField_eq, Model.declaredField_eq]
  simp [Model.Field.ofSchema, Model.fieldType, Field.toSchema, h.name, h.number, h.repeated, ht]

theorem KeptOrLost.weight_le (h : KeptOrLost strict m ds ns es) :
    (ds.filter m.isPlain).length + weight (keptMessages (fun n => !m.isMadeUp n) ns) ≤
      (directFields es).length + weight (nestedDeclared es) := by
  rcases h with ⟨_, hk⟩ | ⟨_, hl⟩
  · exact Nat.le_of_eq hk.weight_eq
  · exact Nat.le_of_lt hl

/-- An element that declares neither a field nor a message, from fields that are not plain. -/
theorem KeptOrLost.skip {ds' : List Field} {e : MessageElement}
    (h : KeptOrLost strict m ds ns es)
    (he : ElementsEncode true m ds ns es → ElementsEncode true m ds' ns (e :: es))
    (hd : ds'.filter m.isPlain = ds.filter m.isPlain)
    (hf : directFields (e :: es) = directFields es)
    (hn : nestedDeclared (e :: es) = nestedDeclared es) :
    KeptOrLost strict m ds' ns (e :: es) := by
  rcases h with ⟨hs, hk⟩ | ⟨hs, hl⟩
  · exact .inl ⟨he hs, by rw [hd, hk.fields, hf], by rw [hk.nested, hn]⟩
  · refine .inr ⟨hs, ?_⟩
    unfold Lost
    rw [hd, hf, hn]
    exact hl

theorem isPlain_of_isEntry {d : Field} (h : m.mapEntry? d ≠ none) : m.isPlain d = false := by
  obtain ⟨entry, he⟩ := Option.ne_none_iff_exists'.1 h
  rw [Message.isPlain, role_of_entry he]

theorem filter_isPlain_cons {d : Field} (h : m.isPlain d = false) :
    (d :: ds).filter m.isPlain = ds.filter m.isPlain :=
  List.filter_cons_of_neg (by rw [h]; exact Bool.false_ne_true)

theorem MembersEncode.filter_isPlain {index : Nat} {members : List Field}
    {fs : List Schema.Field} (h : MembersEncode index members fs) :
    members.filter m.isPlain = [] := by
  have member {d : Field} (ho : d.oneofIndex = some (index : Int))
      (he : d.explicitOptional = false) : m.isPlain d = false := by
    by_cases hn : m.mapEntry? d = none
    · rw [Message.isPlain, role_member hn ho he]
    · exact isPlain_of_isEntry hn
  induction h with
  | nil => rfl
  | field _ ho he _ ih => rw [List.filter_cons, member ho he]; exact ih
  | group _ ho he _ ih => rw [List.filter_cons, member ho he]; exact ih

theorem keptMessages_of_isMadeUp {n : Message} (h : m.isMadeUp n = true) :
    keptMessages (fun k => !m.isMadeUp k) (n :: ns) = keptMessages (fun k => !m.isMadeUp k) ns := by
  rw [keptMessages]
  simp [h]

theorem weight_nestedDeclared_message (name : String) (inner : List MessageElement) :
    weight (nestedDeclared (.message name inner :: es)) =
      (directFields inner).length + 1 + weight (nestedDeclared inner) +
        weight (nestedDeclared es) := by
  rw [nestedDeclared, Model.elementMessages, weight_append, weight_cons, declaredMessage,
    List.length_map]

theorem KeptOrLost.field {d : Field} {f : Schema.Field} (h : KeptOrLost strict m ds ns es)
    (hd : d.Encodes f) (ho : d.oneofIndex = none ∨ d.explicitOptional = true)
    (hs : strict = true → m.mapEntry? d = none) :
    KeptOrLost strict m (d :: ds) ns (.statement (.field f) :: es) := by
  have hdf : directFields (.statement (.field f) :: es) = f :: directFields es := rfl
  have hdn : nestedDeclared (.statement (.field f) :: es) = nestedDeclared es := rfl
  by_cases hn : m.mapEntry? d = none
  · have hp : m.isPlain d = true := by
      rw [Message.isPlain, role_plain hn ho hd.type.kind_ne_group]
    rcases h with ⟨he, hk⟩ | ⟨hl', hl⟩
    · refine .inl ⟨.field hd ho (fun _ => hn) he, ?_, hk.nested⟩
      rw [List.filter_cons, if_pos hp, List.map_cons, declaredField_toSchema hd, hk.fields, hdf,
        List.map_cons]
    · refine .inr ⟨hl', ?_⟩
      unfold Lost at hl ⊢
      rw [List.filter_cons, if_pos hp, List.length_cons, hdf, List.length_cons, hdn]
      omega
  · -- the field is taken for a map field
    have hle := h.weight_le
    refine .inr ⟨Bool.eq_false_iff.2 fun e => hn (hs e), ?_⟩
    unfold Lost
    rw [filter_isPlain_cons (isPlain_of_isEntry hn), hdf, List.length_cons, hdn]
    omega

theorem keptMessages_cons {child : Message} (h : m.isMadeUp child = false) :
    keptMessages (fun k => !m.isMadeUp k) (child :: ns) =
      compiledMessage child :: keptMessages (fun k => !child.isMadeUp k) child.nested ++
        keptMessages (fun k => !m.isMadeUp k) ns := by
  rw [keptMessages]
  simp [h]

/-- A nested message is itself kept, lost in part, or lost as a whole where it is taken for a map
entry or for the body of a group. -/
theorem KeptOrLost.message {child : Message} {inner : List MessageElement}
    (hc : KeptOrLost strict child child.fields child.nested inner)
    (h : KeptOrLost strict m ds ns es) (hs : strict = true → m.isMadeUp child = false)
    (hm : child.isMapEntry = false) :
    KeptOrLost strict m ds (child :: ns) (.message child.name inner :: es) := by
  have hlec := hc.weight_le
  have hle := h.weight_le
  have hdf : directFields (.message child.name inner :: es) = directFields es := rfl
  cases hk : m.isMadeUp child with
  | true =>
    refine .inr ⟨Bool.eq_false_iff.2 fun e => ?_, ?_⟩
    · rw [hs e] at hk
      cases hk
    · unfold Lost
      rw [keptMessages_of_isMadeUp hk, hdf, weight_nestedDeclared_message]
      omega
  | false =>
    have hw : weight (keptMessages (fun k => !m.isMadeUp k) (child :: ns)) =
        (child.fields.filter child.isPlain).length + 1 +
          weight (keptMessages (fun k => !child.isMadeUp k) child.nested) +
          weight (keptMessages (fun k => !m.isMadeUp k) ns) := by
      rw [keptMessages_cons hk, weight_append, weight_cons, compiledMessage, List.length_map]
    have hlost (hl : Lost child child.fields child.nested inner ∨ Lost m ds ns es) :
        Lost m ds (child :: ns) (.message child.name inner :: es) := by
      unfold Lost at hl ⊢
      rw [hw, hdf, weight_nestedDeclared_message]
      omega
    rcases hc with ⟨hce, hck⟩ | ⟨hcs, hcl⟩
    · rcases h with ⟨hte, htk⟩ | ⟨hts, htl⟩
      · refine .inl ⟨.message hce (fun _ => hk) hm hte, htk.fields, ?_⟩
        rw [keptMessages_cons hk, hck.compiledMessage_eq, hck.nested, htk.nested]
        rfl
      · exact .inr ⟨hts, hlost (.inr htl)⟩
    · exact .inr ⟨hcs, hlost (.inl hcl)⟩

theorem KeptOrLost.madeUp {n : Message} (h : KeptOrLost strict m ds ns es) (hu : m.MakesUp n)
    (hk : m.isMadeUp n = true) : KeptOrLost strict m ds (n :: ns) es := by
  have hkept : keptMessages (fun k => !m.isMadeUp k) (n :: ns) =
      keptMessages (fun k => !m.isMadeUp k) ns := keptMessages_of_isMadeUp hk
  rcases h with ⟨he, hkeeps⟩ | ⟨hs, hl⟩
  · exact .inl ⟨.madeUp hu he, hkeeps.fields, hkept ▸ hkeeps.nested⟩
  · refine .inr ⟨hs, ?_⟩
    unfold Lost
    rw [hkept]
    exact hl

/-- What is lost is a field or a message that has been taken for a made-up one. -/
theorem ElementsEncode.kept_or_lost (h : ElementsEncode strict m ds ns es)
    (hns : ∀ n ∈ ns, n ∈ m.nested) : KeptOrLost strict m ds ns es := by
  induction h with
  | nil => exact .inl ⟨.nil, rfl, by rw [keptMessages]; rfl⟩
  | field hd ho hs _ ih => exact (ih hns).field hd ho hs
  | @mapField m d entry f ds ns es he hd _ ih =>
    have hp := isPlain_of_isEntry (mapEntry?_ne_none he hd)
    exact (ih hns).skip (.mapField he hd) (filter_isPlain_cons hp) rfl rfl
  | @group m d body g ds ns es hb hd _ ih =>
    have hp : m.isPlain d = false := by
      rw [Message.isPlain, role_group hd.kind hd.oneofIndex]
    exact (ih hns).skip (.group hb hd) (filter_isPlain_cons hp) rfl rfl
  | @oneof m index name members fs ds ns es hi hm _ ih =>
    have hf : (members ++ ds).filter m.isPlain = ds.filter m.isPlain := by
      rw [List.filter_append, hm.filter_isPlain, List.nil_append]
    exact (ih hns).skip (.oneof hi hm) hf rfl rfl
  | @unfielded m s ds ns es hs _ ih =>
    have hf : directFields (.statement s :: es) = directFields es := by
      cases s <;> first | rfl | simp [isUnfielded] at hs
    exact (ih hns).skip (.unfielded hs) rfl hf rfl
  | setting _ ih => exact (ih hns).skip .setting rfl rfl rfl
  | message _ hs hm _ ihChild ih =>
    exact (ihChild fun _ hn => hn).message (ih fun n hn => hns n (List.mem_cons_of_mem _ hn)) hs hm
  | madeUp hu _ ih =>
    have hn := hns _ List.mem_cons_self
    exact (ih fun n hn => hns n (List.mem_cons_of_mem _ hn)).madeUp hu (isMadeUp_of_makesUp hu hn)

end ServiceScaffold.Descriptor

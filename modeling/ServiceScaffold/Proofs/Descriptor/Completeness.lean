import ServiceScaffold.Cli.Run
import ServiceScaffold.Proofs.Descriptor.Conversion

/-!
# What a compiled file must have

A compiled file may be any record that has the layout of one. Its conversion refers from a map
field to the two parts of the entry type and from the member of a oneof to the name of the oneof;
where one of these is missing the failure is not one that is reported, and neither is a text that
is not UTF-8. Everything else that can keep a compiled file from becoming services is reported:
with texts that are UTF-8, extraction is `Settled` exactly when all the messages that the conversion
comes to are complete. That holds of every decoder.
-/
namespace ServiceScaffold.Descriptor

/-! ## Complete files -/

/-- What the conversion of a field refers to is there: a key and a value in the entry type of a
map field, and for the member of a oneof a name at its index, which counts from the end when it
is negative. -/
structure Message.Supports (m : Message) (d : Field) : Prop where
  entry : ∀ entry, m.mapEntry? d = some entry → 2 ≤ entry.fields.length
  oneof : m.mapEntry? d = none → ∀ index, d.oneofIndex = some index → d.explicitOptional = false →
    -(m.oneofs.length : Int) ≤ index ∧ index < m.oneofs.length

/-- The messages that the conversion of a message comes to: itself, and those nested in it at any
depth, but for the ones that were made up for maps and groups. -/
inductive Message.Reaches : Message → Message → Prop where
  | refl (m : Message) : Reaches m m
  | nested {m n k : Message} (hn : n ∈ m.nested) (kept : m.isMadeUp n = false)
      (hk : Reaches n k) : Reaches m k

def Message.Complete (m : Message) : Prop :=
  ∀ k, m.Reaches k → ∀ d ∈ k.fields, k.Supports d

def File.Complete (f : File) : Prop :=
  ∀ m ∈ f.messages, m.Complete

theorem Message.complete_iff {m : Message} :
    m.Complete ↔ (∀ d ∈ m.fields, m.Supports d) ∧
      ∀ n ∈ m.nested, m.isMadeUp n = false → n.Complete := by
  constructor
  · intro h
    exact ⟨h m (.refl m), fun n hn kept k hk => h k (.nested hn kept hk)⟩
  · rintro ⟨own, inner⟩ k hk
    cases hk with
    | refl => exact own
    | nested hn kept hk => exact inner _ hn kept k hk

/-! ## Fields -/

theorem oneofName_ok_iff {m : Message} {index : Int} :
    (∃ name, m.oneofName index = .ok name) ↔
      -(m.oneofs.length : Int) ≤ index ∧ index < m.oneofs.length := by
  have found {position : Int} :
      (∃ name, (if position < 0 then none else m.oneofs[position.toNat]?) = some name) ↔
        0 ≤ position ∧ position < m.oneofs.length := by
    split
    · simp only [reduceCtorEq, exists_false, false_iff]
      omega
    · rw [← Option.isSome_iff_exists, isSome_getElem?]
      omega
  have hp : -(m.oneofs.length : Int) ≤ index ∧ index < m.oneofs.length ↔
      0 ≤ (if index < 0 then index + m.oneofs.length else index) ∧
        (if index < 0 then index + m.oneofs.length else index) < m.oneofs.length := by
    split <;> omega
  rw [hp, ← found]
  unfold Message.oneofName
  simp only
  split
  · next name hs => simp [hs]
  · next hs => simp [hs]

theorem role_eq_map {m entry : Message} {d : Field} :
    m.role d = .map entry ↔ m.mapEntry? d = some entry := by
  unfold Message.role
  split
  · next hs => simp [hs]
  · next hs =>
    rw [hs]
    split
    · simp
    · split <;> simp

theorem role_eq_member {m : Message} {d : Field} {index : Int} :
    m.role d = .member index ↔
      m.mapEntry? d = none ∧ d.oneofIndex = some index ∧ d.explicitOptional = false := by
  unfold Message.role
  split
  · next hs => simp [hs]
  · next hs =>
    split
    · next ho he => simp [hs, ho, he]
    · next hne =>
      have hr : ¬(d.oneofIndex = some index ∧ d.explicitOptional = false) :=
        fun ⟨ho, he⟩ => hne index ho he
      split <;> simp [hr]

theorem supports_iff {m : Message} {d : Field} : m.Supports d ↔ m.Resolves d := by
  have hr : m.Resolves d ↔ (∀ entry, m.role d = .map entry → 2 ≤ entry.fields.length) ∧
      ∀ index, m.role d = .member index → ∃ name, m.oneofName index = .ok name := by
    unfold Message.Resolves
    cases m.role d <;> simp
  simp only [hr, role_eq_map, role_eq_member, oneofName_ok_iff]
  constructor
  · rintro ⟨hm, ho⟩
    exact ⟨hm, fun index ⟨hn, hi, he⟩ => ho hn index hi he⟩
  · rintro ⟨hm, ho⟩
    exact ⟨hm, fun hn index hi he => ho index ⟨hn, hi, he⟩⟩

theorem mapField_ok_iff {entry : Message} {d : Field} :
    (∃ f, mapField entry d = .ok f) ↔ 2 ≤ entry.fields.length := by
  refine ⟨fun h => ?_, fun h => mapField_ok h d⟩
  obtain ⟨f, hf⟩ := h
  unfold mapField at hf
  split at hf
  · next he => simp [he]
  · cases hf

/-- A oneof is looked up only where its first member stands; a further member has the index of
one that was found. -/
theorem resolves_of_fieldElements_ok {m : Message} {ds : List Field} {seen : List Int}
    (hs : ∀ index ∈ seen, ∃ name, m.oneofName index = .ok name)
    {es : List Schema.MessageElement} (h : m.fieldElements seen ds = .ok es) :
    ∀ d ∈ ds, m.Resolves d := by
  induction ds generalizing seen es with
  | nil => simp
  | cons d ds ih =>
    rw [Message.fieldElements] at h
    rw [List.forall_mem_cons, Message.Resolves]
    cases hr : m.role d with
    | map entry =>
      rw [hr] at h
      obtain ⟨head, hh, h⟩ := bind_eq_ok h
      obtain ⟨tail, ht, _⟩ := bind_eq_ok h
      exact ⟨mapField_ok_iff.1 ⟨head, hh⟩, ih hs ht⟩
    | member index =>
      rw [hr] at h
      simp only at h
      split at h
      · next hmem => exact ⟨hs index hmem, ih hs h⟩
      · obtain ⟨name, hn, h⟩ := bind_eq_ok h
        obtain ⟨tail, ht, _⟩ := bind_eq_ok h
        exact ⟨⟨name, hn⟩, ih (List.forall_mem_cons.2 ⟨⟨name, hn⟩, hs⟩) ht⟩
    | group =>
      rw [hr] at h
      obtain ⟨tail, ht, _⟩ := bind_eq_ok h
      exact ⟨trivial, ih hs ht⟩
    | plain =>
      rw [hr] at h
      obtain ⟨tail, ht, _⟩ := bind_eq_ok h
      exact ⟨trivial, ih hs ht⟩

theorem fieldElements_ok_iff {m : Message} :
    (∃ es, m.fieldElements [] m.fields = .ok es) ↔ ∀ d ∈ m.fields, m.Supports d := by
  simp only [supports_iff]
  constructor
  · rintro ⟨es, h⟩
    exact resolves_of_fieldElements_ok (by simp) h
  · intro h
    obtain ⟨es, he, _⟩ := fieldElements_ok h []
    exact ⟨es, he⟩

/-! ## Messages and files -/

theorem nestedElements_ok_iff (keep : Message → Bool) (ms : List Message) :
    (∃ es, nestedElements keep ms = .ok es) ↔ ∀ n ∈ ms, keep n = true → n.Complete := by
  fun_induction nestedElements keep ms with
  | case1 keep => simp
  | case2 keep m ms hk ihInner ihTail =>
    simp only [Bool.not_eq_true'] at ihInner
    rw [List.forall_mem_cons, Message.complete_iff, ← fieldElements_ok_iff, ← ihInner, ← ihTail]
    constructor
    · rintro ⟨es, h⟩
      obtain ⟨own, ho, h⟩ := bind_eq_ok h
      obtain ⟨inner, hi, h⟩ := bind_eq_ok h
      obtain ⟨tail, ht, _⟩ := bind_eq_ok h
      exact ⟨fun _ => ⟨⟨own, ho⟩, inner, hi⟩, tail, ht⟩
    · rintro ⟨h, tail, ht⟩
      obtain ⟨⟨own, ho⟩, inner, hi⟩ := h hk
      exact ⟨_, by simp only [ho, hi, ht]; rfl⟩
  | case3 keep m ms hk ih =>
    rw [List.forall_mem_cons, ih]
    exact ⟨fun h => ⟨fun hm => absurd hm hk, h⟩, And.right⟩

theorem toSchema_ok_iff {m : Message} : (∃ s, m.toSchema = .ok s) ↔ m.Complete := by
  have hn := nestedElements_ok_iff (fun n => !m.isMadeUp n) m.nested
  simp only [Bool.not_eq_true'] at hn
  rw [Message.complete_iff, ← fieldElements_ok_iff, ← hn]
  constructor
  · rintro ⟨s, h⟩
    obtain ⟨es, he, _⟩ := bind_eq_ok h
    obtain ⟨own, ho, he⟩ := bind_eq_ok he
    obtain ⟨inner, hi, _⟩ := bind_eq_ok he
    exact ⟨⟨own, ho⟩, inner, hi⟩
  · rintro ⟨⟨own, ho⟩, inner, hi⟩
    exact ⟨_, by simp only [Message.toSchema, Message.elements, ho, hi]; rfl⟩

theorem mapM_ok_iff {α β : Type} {f : α → Except MissingPart β} {as : List α} :
    (∃ bs, as.mapM f = .ok bs) ↔ ∀ a ∈ as, ∃ b, f a = .ok b := by
  induction as with
  | nil => exact ⟨fun _ => nofun, fun _ => ⟨[], rfl⟩⟩
  | cons a as ih =>
    rw [List.mapM_cons, List.forall_mem_cons, ← ih]
    constructor
    · rintro ⟨bs, h⟩
      obtain ⟨b, hb, h⟩ := bind_eq_ok h
      obtain ⟨rest, hr, _⟩ := bind_eq_ok h
      exact ⟨⟨b, hb⟩, rest, hr⟩
    · rintro ⟨⟨b, hb⟩, rest, hr⟩
      exact ⟨_, by simp only [hb, hr]; rfl⟩

/-- A file can be converted exactly when it is complete. -/
theorem declarations_ok_iff {f : File} : (∃ s, f.declarations = .ok s) ↔ f.Complete := by
  simp only [File.Complete, ← toSchema_ok_iff]
  rw [← mapM_ok_iff]
  constructor
  · rintro ⟨s, h⟩
    obtain ⟨messages, hm, _⟩ := bind_eq_ok h
    exact ⟨messages, hm⟩
  · rintro ⟨messages, hm⟩
    exact ⟨_, by simp only [File.declarations, hm]; rfl⟩

end ServiceScaffold.Descriptor

/-! ## Extraction -/

namespace ServiceScaffold
open Files Descriptor

namespace Extraction

/-- An extraction ends with a service or with a failure that is reported. -/
def Settled (result : Except Failure Extraction) : Prop :=
  match result with
  | .ok e => e.services ≠ []
  | .error failure => failure.reported = true

theorem settled_ofDeclarations (file : Schema.File) (source : String) :
    Settled (ofDeclarations file source) := by
  cases he : ofDeclarations file source with
  | ok e => exact ofDeclarations_services_ne_nil he
  | error failure =>
    unfold ofDeclarations at he
    simp only at he
    split at he
    · cases he
      rfl
    · cases he

/-- A part that is missing from a compiled file is the one failure that is not reported. -/
theorem settled_ofCompiled (file : Descriptor.File) (source : String) :
    Settled (ofCompiled file source) ↔ file.Complete := by
  rw [← declarations_ok_iff, ofCompiled]
  cases hd : file.declarations with
  | error part => simp [Settled, Failure.reported]
  | ok s => simp [settled_ofDeclarations]

variable {decoder : Decoder}

theorem settled_ofCompiledBytes (decoder : Decoder) (bs : Bytes) (source : String) :
    Settled (ofCompiledBytes bs source decoder) ↔ decoder.file bs ≠ .error .notText ∧
      ∀ file, decoder.file bs = .ok file → file.Complete := by
  rw [ofCompiledBytes]
  cases decoder.file bs with
  | error fault => cases fault <;> simp [Settled, Failure.reported]
  | ok file => simp [settled_ofCompiled]

theorem reported_of_selectFrom {bs : Bytes} {target source : String} {failure : Failure}
    (h : selectFrom bs target source decoder = .error failure) :
    failure.reported = true ↔ decoder.fileSet bs ≠ .error .notText := by
  unfold selectFrom at h
  split at h
  · next fault hb =>
    cases h
    rw [hb]
    cases fault <;> simp [Failure.reported]
  · next hb =>
    split at h
    · cases h
      simp [hb, Failure.reported]
    · cases h

theorem settled_ofSet (decoder : Decoder) (bs : Bytes) (target source : String) :
    Settled (ofSet bs target source decoder) ↔ decoder.fileSet bs ≠ .error .notText ∧
      ∀ file, selectFrom bs target source decoder = .ok file → file.Complete := by
  rw [ofSet]
  cases hf : selectFrom bs target source decoder with
  | error failure => simp [Settled, reported_of_selectFrom hf]
  | ok file =>
    have hb : decoder.fileSet bs ≠ .error .notText := by
      intro hb
      simp [selectFrom, hb] at hf
    simp [settled_ofCompiled, hb]

/-- A failure that is reported ends the run with the status 1. -/
theorem runRequest_of_reported {c : Compiler} {r : Cli.Request} {d d' : Disk} {failure : Failure}
    (h : Cli.extract c r d decoder = (.error failure, d')) (hr : failure.reported = true) :
    Cli.runRequest c r d decoder =
      (.ok ⟨1, "", "FATAL: " ++ failure.message ++ "\n"⟩, d') := by
  simp only [Cli.runRequest, h, hr, if_true]
  rfl

/-- Extraction from compiled bytes, or from the file chosen in a set of them, gives a service or a
failure that is reported exactly when the texts are UTF-8 and the compiled file, where there is one,
is complete. Then the run of a command goes on with the services or ends with a report. -/
theorem settled_iff_complete (decoder : Decoder) (bs : Bytes) (target source : String) :
    (Settled (ofCompiledBytes bs source decoder) ↔ decoder.file bs ≠ .error .notText ∧
      ∀ file, decoder.file bs = .ok file → file.Complete) ∧
    (Settled (ofSet bs target source decoder) ↔ decoder.fileSet bs ≠ .error .notText ∧
      ∀ file, selectFrom bs target source decoder = .ok file → file.Complete) ∧
    ∀ c r d d', Cli.extract c r d decoder = (ofSet bs target source decoder, d') →
      Settled (ofSet bs target source decoder) →
        (∃ e, Cli.extract c r d decoder = (.ok e, d') ∧ e.services ≠ []) ∨
        ∃ failure, Cli.extract c r d decoder = (.error failure, d') ∧
          Cli.runRequest c r d decoder =
            (.ok ⟨1, "", "FATAL: " ++ failure.message ++ "\n"⟩, d') := by
  refine ⟨settled_ofCompiledBytes decoder bs source, settled_ofSet decoder bs target source, ?_⟩
  intro c r d d' hx hs
  cases he : ofSet bs target source decoder with
  | ok e =>
    rw [he] at hx hs
    exact .inl ⟨e, hx, hs⟩
  | error failure =>
    rw [he] at hx hs
    exact .inr ⟨failure, hx, runRequest_of_reported hx hs⟩

/-- The message `M` with a field `x` in the first of its oneofs, of which there is none. -/
def namelessOneof : Bytes :=
  [0x22, 0x0A, 0x0A, 0x01, 0x4D, 0x12, 0x05, 0x0A, 0x01, 0x78, 0x48, 0x00]

theorem namelessOneof_not_settled : ¬Settled (ofCompiledBytes namelessOneof "p.proto") := by
  have hf : (match ofCompiledBytes namelessOneof "p.proto" with
      | .ok _ => true
      | .error failure => failure.reported) = false := by
    decide +kernel
  intro hs
  cases he : ofCompiledBytes namelessOneof "p.proto" with
  | ok e => simp [he] at hf
  | error failure => simp_all [Settled]

end Extraction

end ServiceScaffold

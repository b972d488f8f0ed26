import ServiceScaffold.Proofs.Generation.ModelText
import ServiceScaffold.Proofs.Naming.CamelCase

/-!
# Fields of the persistence structs

Behind the fields of its message a persistence struct has two stamps, `CreatedAt` and `UpdatedAt`,
whether or not the message has such a field itself. Read back from the source, the fields of a struct
are distinct exactly when those of the message are and none of them has a name that becomes a stamp.
By their words, there are twelve such names (`stampSpellings`).
-/
namespace ServiceScaffold
open Model Naming Skeleton

/-! ## Names of stamps -/

/-- The names that are spelled like a stamp in upper camel case, by their words. -/
def stampSpellings : List (List String) :=
  [["CreatedAt"], ["createdAt"], ["Created", "At"], ["created", "At"], ["Created", "at"],
   ["created", "at"], ["UpdatedAt"], ["updatedAt"], ["Updated", "At"], ["updated", "At"],
   ["Updated", "at"], ["updated", "at"]]

theorem upperCamel_eq_stamp_iff (name : String) :
    upperCamel name = "CreatedAt" ∨ upperCamel name = "UpdatedAt" ↔
      wordsOf name ∈ stampSpellings := by
  have all : stampSpellings = spellings "CreatedAt" ++ spellings "UpdatedAt" := by decide +kernel
  rw [upperCamel_eq_iff (by decide), upperCamel_eq_iff (by decide), all, List.mem_append]

/-- Names with the stamps behind them. -/
theorem nodup_stamped_iff (names : List String) :
    (names ++ ["CreatedAt", "UpdatedAt"]).Nodup ↔
      names.Nodup ∧ ∀ name ∈ names, ¬(name = "CreatedAt" ∨ name = "UpdatedAt") := by
  rw [List.nodup_append]
  simp only [List.mem_cons, List.not_mem_nil, or_false, not_or]
  constructor
  · rintro ⟨own, -, apart⟩
    exact ⟨own, fun name hn => ⟨apart name hn _ (.inl rfl), apart name hn _ (.inr rfl)⟩⟩
  · rintro ⟨own, apart⟩
    refine ⟨own, by decide, ?_⟩
    rintro name hn stamp (rfl | rfl)
    · exact (apart name hn).1
    · exact (apart name hn).2

/-! ## Structs -/

/-- The names of a message's fields in Go source. -/
def ownNames (s : Service) (message : String) : List String :=
  (s.fieldsOf message).map fun f => upperCamel f.name

/-- A struct that is read back has the fields of the message and the stamps. No two of them have one
name exactly when none of the message's own do and none of these is spelled like a stamp. -/
structure StampedFrom (s : Service) (message : String) (struct : String × List (String × String)) :
    Prop where
  name : struct.1 = message
  fields : struct.2.map Prod.fst = ownNames s message ++ ["CreatedAt", "UpdatedAt"]
  distinct : (struct.2.map Prod.fst).Nodup ↔ (ownNames s message).Nodup ∧
    ∀ f ∈ s.fieldsOf message, wordsOf f.name ∉ stampSpellings

theorem stampedFrom (s : Service) (message : String) :
    StampedFrom s message
      (message, (s.fieldsOf message).map shownField ++ Layer.persistence.stamps) := by
  have fields : ((s.fieldsOf message).map shownField ++ Layer.persistence.stamps).map Prod.fst =
      ownNames s message ++ ["CreatedAt", "UpdatedAt"] := by
    rw [List.map_append, List.map_map]
    rfl
  refine ⟨rfl, fields, ?_⟩
  rw [fields, nodup_stamped_iff]
  simp only [ownNames, List.forall_mem_map, upperCamel_eq_stamp_iff]

/-- Every persistence struct of a text is read back, and the names of its fields are distinct exactly
when the message keeps them apart from each other and from the stamps. -/
theorem ofText_stamped {text source : String} {e : Extraction}
    (h : Extraction.ofText text source = .ok e) (o : Options) :
    ∀ s ∈ e.services, ∃ structs,
      structsIn (Layer.persistence.modelFile o s).text = some structs ∧
        List.Forall₂ (StampedFrom s) s.messageNames structs := by
  intro s hs
  refine ⟨_, structsIn_modelFile (unbroken_of_ofText h s hs) .persistence o, ?_⟩
  rw [Layer.shownMessages, List.forall₂_map_right_iff, List.forall₂_same]
  exact fun message _ => stampedFrom s message

/-- A message with one field of a name to choose, and a service. -/
def fieldText (name : String) : String :=
  "message M \x7b string " ++ name ++ " = 1; \x7d service S \x7b \x7d"

def fieldFile (name : String) : Schema.File :=
  [.message ⟨"M", [.statement (.field ⟨"string", name, 1, false, .bare⟩)]⟩, .service ⟨"S", []⟩]

theorem ofText_fieldText {name : String}
    (h : Schema.File.ofText (fieldText name) = .ok (fieldFile name)) :
    Extraction.ofText (fieldText name) "m.proto" =
      .ok ⟨[declaredService (fieldFile name) "m.proto" ⟨"S", []⟩], [], "m.proto"⟩ := by
  rw [Extraction.ofText, h]
  exact ofDeclarations_eq (Schema.wellPlaced_of_ofText h) "m.proto"

theorem ofText_stamped_created_by :
    ∃ e s struct, Extraction.ofText (fieldText "created_by") "m.proto" = .ok e ∧ s ∈ e.services ∧
      structsIn (Layer.persistence.modelFile .default s).text = some [struct] ∧
      StampedFrom s "M" struct ∧ (struct.2.map Prod.fst).Nodup := by
  have hf : Schema.File.ofText (fieldText "created_by") = .ok (fieldFile "created_by") := by
    with_unfolding_all rfl
  have he := ofText_fieldText hf
  obtain ⟨structs, read, stamped⟩ := ofText_stamped he .default _ List.mem_cons_self
  obtain ⟨struct, _, hstruct, hnil, rfl⟩ := List.forall₂_cons_left_iff.1 stamped
  cases hnil
  refine ⟨_, _, struct, he, List.mem_cons_self, read, hstruct, hstruct.distinct.2 ?_⟩
  decide +kernel

/-- A message that keeps the time of its creation itself has that field twice in its struct. -/
theorem created_at_twice :
    ∃ e s, Extraction.ofText (fieldText "created_at") "m.proto" = .ok e ∧ s ∈ e.services ∧
      (ownNames s "M").Nodup ∧
      structsIn (Layer.persistence.modelFile .default s).text = some
        [("M", [("CreatedAt", "string"), ("CreatedAt", "time.Time"), ("UpdatedAt", "time.Time")])] ∧
      ¬["CreatedAt", "CreatedAt", "UpdatedAt"].Nodup := by
  have hf : Schema.File.ofText (fieldText "created_at") = .ok (fieldFile "created_at") := by
    with_unfolding_all rfl
  have he := ofText_fieldText hf
  have read := structsIn_modelFile (unbroken_of_ofText he _ List.mem_cons_self) .persistence .default
  refine ⟨_, _, he, List.mem_cons_self, ?_, read.trans ?_, ?_⟩
  · decide +kernel
  · decide +kernel
  · decide

end ServiceScaffold

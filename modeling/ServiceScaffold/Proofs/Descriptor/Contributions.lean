import Mathlib.Data.List.Forall2
import ServiceScaffold.Proofs.Descriptor.Completeness

/-!
# What becomes of the fields

The conversion of a compiled message meets a field as part of a map, of a oneof, of a group or by
itself, and it gathers the members of a oneof at the first of them. `Message.ConvertedTo` says what
has to come out, from the fields and the nested messages alone; `fieldElements_cons` is all that
one field can do, and the clauses about fields follow from it by induction over them.
-/
namespace ServiceScaffold.Descriptor
open Naming
open Schema (MessageElement)

/-! ## Kinds of fields -/

/-- A repeated field of the type of a map entry nested in the message. -/
def Message.IsMap (m : Message) (d : Field) : Prop :=
  d.cardinality = .repeated ∧ d.kind = .message ∧
    ∃ n ∈ m.nested, n.isMapEntry = true ∧ n.name = bare d.typeName

instance (m : Message) (d : Field) : Decidable (m.IsMap d) :=
  inferInstanceAs (Decidable (_ ∧ _ ∧ _))

/-- The entry type of a map field: of those with its name the last. -/
def Message.entryOf (m : Message) (d : Field) : Option Message :=
  (m.nested.filter fun n => n.isMapEntry && n.name = bare d.typeName).getLast?

/-- The index of the oneof of which a field is a member. -/
def Message.oneofOf (m : Message) (d : Field) : Option Int :=
  if m.IsMap d ∨ d.explicitOptional = true then none else d.oneofIndex

/-- A oneof by its index, which counts from the end where it is negative. -/
def Message.OneofNamed (m : Message) (index : Int) (name : String) : Prop :=
  ∃ position : Nat, m.oneofs[position]? = some name ∧
    (index = position ∨ index = position - m.oneofs.length)

/-- No field in front of it is a member of the same oneof. -/
def Message.Leads (m : Message) (front : List Field) (d : Field) : Prop :=
  m.oneofOf d = none ∨ ∀ d' ∈ front, m.oneofOf d' ≠ m.oneofOf d

instance (m : Message) (front : List Field) (d : Field) : Decidable (m.Leads front d) :=
  inferInstanceAs (Decidable (_ ∨ _))

/-- The fields in their order, of each oneof only the first. -/
def Message.leaders (m : Message) : List Field :=
  (m.fields.zipIdx.filter fun p => m.Leads (m.fields.take p.2) p.1).map Prod.fst

/-- The element that stands for a field, or for a oneof where its first member stood. -/
inductive Message.Makes (m : Message) (d : Field) : MessageElement → Prop where
  | map {entry : Message} {key value : Field} {more : List Field} (hd : m.IsMap d)
      (he : m.entryOf d = some entry) (hf : entry.fields = key :: value :: more) :
      Makes m d (.statement (.mapField ⟨key.schemaType, value.schemaType, d.name, d.number⟩))
  | oneof {index : Int} {name : String} (hd : m.oneofOf d = some index)
      (hn : m.OneofNamed index name) :
      Makes m d (.oneof
        ⟨name, (m.fields.filter fun d' => m.oneofOf d' = some index).map Field.toSchema⟩)
  | group (hd : ¬m.IsMap d) (ho : m.oneofOf d = none) (hk : d.kind = .group) :
      Makes m d (.statement (.group d.toGroup))
  | plain (hd : ¬m.IsMap d) (ho : m.oneofOf d = none) (hk : d.kind ≠ .group) :
      Makes m d (.statement (.field d.toSchema))

/-! ## Contributions -/

/-- What one field brings to a message. -/
inductive Contribution where
  | map (name : String) (number : Int)
  | member (name : String) (number : Int)
  | group (number : Int)
  | plain (name : String) (number : Int)
  deriving DecidableEq, Repr

def contributions : MessageElement → List Contribution
  | .statement (.mapField f) => [.map f.name f.number]
  | .statement (.group g) => [.group g.number]
  | .statement (.field f) => [.plain f.name f.number]
  | .oneof o => o.fields.map fun f => .member f.name f.number
  | _ => []

def Message.contribution (m : Message) (d : Field) : Contribution :=
  if m.IsMap d then .map d.name d.number
  else if d.oneofIndex ≠ none ∧ d.explicitOptional = false then .member d.name d.number
  else if d.kind = .group then .group d.number
  else .plain d.name d.number

/-! ## Converted messages -/

/-- Neither the name of a map entry nested in the message nor the type of one of its groups. -/
def Message.Keeps (m n : Message) : Prop :=
  (∀ k ∈ m.nested, k.isMapEntry = true → k.name ≠ n.name) ∧
    ∀ d ∈ m.fields, d.kind = .group → bare d.typeName ≠ n.name

instance (m n : Message) : Decidable (m.Keeps n) :=
  inferInstanceAs (Decidable (_ ∧ _))

/-- The element is the nested message as it is converted. -/
def NestedTo (n : Message) (e : MessageElement) : Prop :=
  ∃ t, n.toSchema = .ok t ∧ e = .message t.name t.elements

/-- Every field is accounted for once, the elements of the fields come in order, and behind them the
nested messages that are kept, each converted in its turn. -/
structure Message.ConvertedTo (m : Message) (s : Schema.Message) : Prop where
  name : s.name = m.name
  once : (s.elements.flatMap contributions).Perm (m.fields.map m.contribution)
  oneofs : ∀ o, .oneof o ∈ s.elements → o.fields ≠ []
  order : ∃ own inner rest, s.elements = own ++ inner ++ rest ∧
    List.Forall₂ m.Makes m.leaders own ∧
    List.Forall₂ NestedTo (m.nested.filter fun n => m.Keeps n) inner ∧
    ∀ e ∈ rest, ∃ u, e = .statement u ∧ isUnfielded u = true

/-- The entry type of the map field lacks its key or value, or the oneof of the field is not
declared. -/
def Message.Lacks (m : Message) (d : Field) : Prop :=
  (∃ entry, m.IsMap d ∧ m.entryOf d = some entry ∧ entry.fields.length < 2) ∨
    ∃ index, m.oneofOf d = some index ∧
      ¬(-(m.oneofs.length : Int) ≤ index ∧ index < m.oneofs.length)

/-! ## Roles -/

theorem mapEntry?_eq (m : Message) (d : Field) :
    m.mapEntry? d = if m.IsMap d then m.entryOf d else none := by
  have hfind : m.mapEntries.reverse.find? (fun n => n.name = bare d.typeName) = m.entryOf d := by
    rw [← List.head?_filter, List.filter_reverse, List.head?_reverse, Message.mapEntries,
      List.filter_filter, Message.entryOf]
    simp only [Bool.and_comm]
  rw [Message.mapEntry?, hfind]
  by_cases h : m.IsMap d
  · rw [if_pos h, if_pos ⟨h.2.1, h.1⟩]
  · rw [if_neg h]
    split
    · next hd =>
      rw [Message.entryOf, List.getLast?_eq_none_iff, List.filter_eq_nil_iff]
      intro n hn he
      simp only [Bool.and_eq_true, decide_eq_true_eq] at he
      exact h ⟨hd.2, hd.1, n, hn, he⟩
    · rfl

theorem entryOf_isSome {m : Message} {d : Field} (h : m.IsMap d) : ∃ e, m.entryOf d = some e := by
  obtain ⟨_, _, n, hn, hm, he⟩ := h
  rw [← Option.isSome_iff_exists, Message.entryOf, List.getLast?_isSome]
  exact List.ne_nil_of_mem (List.mem_filter.2 ⟨hn, by simp [hm, he]⟩)

theorem mapEntry?_eq_none {m : Message} {d : Field} : m.mapEntry? d = none ↔ ¬m.IsMap d := by
  rw [mapEntry?_eq]
  by_cases h : m.IsMap d
  · obtain ⟨e, he⟩ := entryOf_isSome h
    simp [h, he]
  · simp [h]

theorem oneofOf_eq_some {m : Message} {d : Field} {index : Int} :
    m.oneofOf d = some index ↔ m.role d = .member index := by
  rw [role_eq_member, mapEntry?_eq_none, Message.oneofOf]
  by_cases h : m.IsMap d <;> cases d.explicitOptional <;> simp [h]

theorem isMember_eq (m : Message) (index : Int) :
    m.isMember index = fun d => decide (m.oneofOf d = some index) := by
  funext d
  rw [Bool.eq_iff_iff, decide_eq_true_eq, oneofOf_eq_some, Message.isMember]
  cases m.role d <;> simp

theorem oneofNamed_iff {m : Message} {index : Int} {name : String} :
    m.oneofName index = .ok name ↔ m.OneofNamed index name := by
  rw [Message.oneofName]
  constructor
  · intro h
    split at h
    · next found hs =>
      cases h
      by_cases hp : (if index < 0 then index + m.oneofs.length else index) < 0
      · rw [if_pos hp] at hs
        cases hs
      · rw [if_neg hp] at hs
        refine ⟨_, hs, ?_⟩
        split at hp <;> split <;> omega
    · cases h
  · intro h
    obtain ⟨position, hs, hi⟩ := h
    have hl : position < m.oneofs.length := by
      by_contra hl
      rw [List.getElem?_eq_none (by omega)] at hs
      cases hs
    have hp : (if index < 0 then index + m.oneofs.length else index) = position := by
      split <;> omega
    have hn : ¬(position : Int) < 0 := by omega
    simp only [hp, if_neg hn, Int.toNat_natCast, hs]

theorem keeps_iff {m n : Message} : m.Keeps n ↔ m.isMadeUp n = false := by
  rw [Message.isMadeUp, Bool.or_eq_false_iff, decide_eq_false_iff_not, decide_eq_false_iff_not]
  simp [Message.Keeps, Message.mapEntries, Message.groupNames]

theorem supports_iff_not_lacks {m : Message} {d : Field} : m.Supports d ↔ ¬m.Lacks d := by
  have hentry : (∀ entry, m.mapEntry? d = some entry → 2 ≤ entry.fields.length) ↔
      ¬∃ entry, m.IsMap d ∧ m.entryOf d = some entry ∧ entry.fields.length < 2 := by
    rw [mapEntry?_eq]
    by_cases h : m.IsMap d
    · simp only [h, if_true, true_and, not_exists, not_and, Nat.not_lt]
    · simp [h]
  have honeof : (m.mapEntry? d = none → ∀ index, d.oneofIndex = some index →
      d.explicitOptional = false → -(m.oneofs.length : Int) ≤ index ∧ index < m.oneofs.length) ↔
      ¬∃ index, m.oneofOf d = some index ∧
        ¬(-(m.oneofs.length : Int) ≤ index ∧ index < m.oneofs.length) := by
    simp only [oneofOf_eq_some, role_eq_member]
    grind
  rw [Message.Lacks, not_or, ← hentry, ← honeof]
  exact ⟨fun h => ⟨h.entry, h.oneof⟩, fun h => ⟨h.1, h.2⟩⟩

/-! ## One field -/

theorem makes_of_map {m entry : Message} {d : Field} {f : Schema.MapField}
    (hr : m.role d = .map entry) (hf : mapField entry d = .ok f) :
    m.oneofOf d = none ∧ m.Makes d (.statement (.mapField f)) ∧
      m.contribution d = .map f.name f.number := by
  have hentry := role_eq_map.1 hr
  rw [mapEntry?_eq] at hentry
  by_cases hd : m.IsMap d
  · rw [if_pos hd] at hentry
    unfold mapField at hf
    split at hf
    · next key value more he =>
      cases hf
      exact ⟨by simp [Message.oneofOf, hd], .map hd hentry he, by simp [Message.contribution, hd]⟩
    · cases hf
  · rw [if_neg hd] at hentry
    cases hentry

theorem alone_of_role {m : Message} {d : Field} (hm : ∀ entry, m.role d ≠ .map entry)
    (ho : ∀ index, m.role d ≠ .member index) : ¬m.IsMap d ∧ m.oneofOf d = none := by
  constructor
  · rw [← mapEntry?_eq_none, Option.eq_none_iff_forall_ne_some]
    exact fun entry he => hm entry (role_eq_map.2 he)
  · rw [Option.eq_none_iff_forall_ne_some]
    exact fun index hi => ho index (oneofOf_eq_some.1 hi)

/-- A field that is neither of a map nor of a oneof makes a group or stands by itself. -/
theorem role_of_alone {m : Message} {d : Field} (hd : ¬m.IsMap d) (ho : m.oneofOf d = none) :
    m.role d = (if d.kind = .group then .group else .plain) ∧
      m.contribution d =
        if d.kind = .group then .group d.number else .plain d.name d.number := by
  have hone : ∀ index, d.oneofIndex = some index → d.explicitOptional = false → False := by
    intro index hi he
    simp [Message.oneofOf, hd, hi, he] at ho
  constructor
  · unfold Message.role
    rw [mapEntry?_eq_none.2 hd]
    dsimp only
    split
    · next index hi he => exact (hone index hi he).elim
    · rfl
  · have hnot : ¬(d.oneofIndex ≠ none ∧ d.explicitOptional = false) := by
      intro h
      obtain ⟨index, hi⟩ := Option.ne_none_iff_exists'.1 h.1
      exact hone index hi h.2
    rw [Message.contribution, if_neg hd, if_neg hnot]

theorem makes_of_group {m : Message} {d : Field} (hr : m.role d = .group) :
    m.oneofOf d = none ∧ m.Makes d (.statement (.group d.toGroup)) ∧
      m.contribution d = .group d.number := by
  obtain ⟨hd, ho⟩ := alone_of_role (m := m) (d := d) (by simp [hr]) (by simp [hr])
  obtain ⟨hrole, hc⟩ := role_of_alone hd ho
  by_cases hk : d.kind = .group
  · rw [if_pos hk] at hc
    exact ⟨ho, .group hd ho hk, hc⟩
  · simp [hr, hk] at hrole

theorem makes_of_plain {m : Message} {d : Field} (hr : m.role d = .plain) :
    m.oneofOf d = none ∧ m.Makes d (.statement (.field d.toSchema)) ∧
      m.contribution d = .plain d.name d.number := by
  obtain ⟨hd, ho⟩ := alone_of_role (m := m) (d := d) (by simp [hr]) (by simp [hr])
  obtain ⟨hrole, hc⟩ := role_of_alone hd ho
  by_cases hk : d.kind = .group
  · simp [hr, hk] at hrole
  · rw [if_neg hk] at hc
    exact ⟨ho, .plain hd ho hk, hc⟩

/-- All that one field can do: add to a oneof already placed, place its oneof, or make an element
of its own. -/
theorem fieldElements_cons {m : Message} {seen : List Int} {d : Field} {ds : List Field}
    {es : List MessageElement} (h : m.fieldElements seen (d :: ds) = .ok es) :
    (∃ index, m.oneofOf d = some index ∧ index ∈ seen ∧ m.fieldElements seen ds = .ok es) ∨
    (∃ index name tail, m.oneofOf d = some index ∧ index ∉ seen ∧ m.OneofNamed index name ∧
      m.fieldElements (index :: seen) ds = .ok tail ∧
      es = .oneof ⟨name, ((d :: ds).filter fun d' => m.oneofOf d' = some index).map Field.toSchema⟩
        :: tail) ∨
    ∃ e tail, m.oneofOf d = none ∧ m.Makes d e ∧ contributions e = [m.contribution d] ∧
      m.fieldElements seen ds = .ok tail ∧ es = e :: tail := by
  rw [Message.fieldElements] at h
  cases hr : m.role d with
  | map entry =>
    rw [hr] at h
    obtain ⟨f, hf, h⟩ := bind_eq_ok h
    obtain ⟨tail, ht, h⟩ := bind_eq_ok h
    cases h
    obtain ⟨ho, hm, hc⟩ := makes_of_map hr hf
    exact .inr (.inr ⟨_, tail, ho, hm, by rw [hc]; rfl, ht, rfl⟩)
  | member index =>
    have ho := oneofOf_eq_some.2 hr
    rw [hr] at h
    simp only at h
    split at h
    · next hseen => exact .inl ⟨index, ho, hseen, h⟩
    · next hseen =>
      obtain ⟨name, hn, h⟩ := bind_eq_ok h
      obtain ⟨tail, ht, h⟩ := bind_eq_ok h
      cases h
      rw [isMember_eq]
      exact .inr (.inl ⟨index, name, tail, ho, hseen, oneofNamed_iff.1 hn, ht, rfl⟩)
  | group =>
    rw [hr] at h
    obtain ⟨tail, ht, h⟩ := bind_eq_ok h
    cases h
    obtain ⟨ho, hm, hc⟩ := makes_of_group hr
    exact .inr (.inr ⟨_, tail, ho, hm, by rw [hc]; rfl, ht, rfl⟩)
  | plain =>
    rw [hr] at h
    obtain ⟨tail, ht, h⟩ := bind_eq_ok h
    cases h
    obtain ⟨ho, hm, hc⟩ := makes_of_plain hr
    exact .inr (.inr ⟨_, tail, ho, hm, by rw [hc]; rfl, ht, rfl⟩)

/-! ## All fields -/

/-- The leaders among the fields behind some others. -/
def Message.leadersBehind (m : Message) (front ds : List Field) : List Field :=
  ((ds.zipIdx front.length).filter fun p => m.Leads (m.fields.take p.2) p.1).map Prod.fst

theorem leadersBehind_cons {m : Message} {front ds : List Field} {d : Field}
    (hf : m.fields = front ++ d :: ds) :
    m.leadersBehind front (d :: ds) =
      if m.Leads front d then d :: m.leadersBehind (front ++ [d]) ds
      else m.leadersBehind (front ++ [d]) ds := by
  have ht : m.fields.take front.length = front := by
    rw [hf]
    exact List.take_left
  rw [Message.leadersBehind, Message.leadersBehind, List.zipIdx_cons, List.filter_cons,
    List.length_append, List.length_singleton]
  simp only [ht, decide_eq_true_eq]
  split <;> rfl

/-- The elements are made by the leaders, where `seen` holds the oneofs of the fields in front. -/
theorem fieldElements_makes {m : Message} {front ds : List Field} {seen : List Int}
    {es : List MessageElement} (hf : m.fields = front ++ ds)
    (hs : ∀ index, index ∈ seen ↔ ∃ d ∈ front, m.oneofOf d = some index)
    (h : m.fieldElements seen ds = .ok es) :
    List.Forall₂ m.Makes (m.leadersBehind front ds) es := by
  induction ds generalizing front seen es with
  | nil =>
    cases h
    exact .nil
  | cons d ds ih =>
    have hf' : m.fields = front ++ [d] ++ ds := by rw [hf, List.append_assoc]; rfl
    have hmem (index : Int) : (∃ d' ∈ front ++ [d], m.oneofOf d' = some index) ↔
        index ∈ seen ∨ m.oneofOf d = some index := by
      simp [hs, or_and_right, exists_or]
    rw [leadersBehind_cons hf]
    rcases fieldElements_cons h with ⟨index, ho, hseen, ht⟩ |
      ⟨index, name, tail, ho, hseen, hn, ht, rfl⟩ | ⟨e, tail, ho, hm, _, ht, rfl⟩
    · obtain ⟨d', hd', ho'⟩ := (hs index).1 hseen
      have hlead : ¬m.Leads front d := by
        intro hlead
        rcases hlead with hlead | hlead
        · simp [ho] at hlead
        · exact hlead d' hd' (ho'.trans ho.symm)
      rw [if_neg hlead]
      refine ih hf' ?_ ht
      intro i
      rw [hmem, or_iff_left_of_imp]
      intro hi
      rw [ho] at hi
      exact Option.some.inj hi ▸ hseen
    · have hfront : ∀ d' ∈ front, m.oneofOf d' ≠ some index :=
        fun d' hd' ho' => hseen ((hs index).2 ⟨d', hd', ho'⟩)
      have hall : (d :: ds).filter (fun d' => m.oneofOf d' = some index) =
          m.fields.filter fun d' => m.oneofOf d' = some index := by
        have hnil : front.filter (fun d' => m.oneofOf d' = some index) = [] :=
          List.filter_eq_nil_iff.2 (by simpa using hfront)
        rw [hf, List.filter_append, hnil, List.nil_append]
      rw [if_pos (.inr (by rw [ho]; exact hfront)), hall]
      refine .cons (.oneof ho hn) (ih hf' ?_ ht)
      intro i
      rw [hmem, List.mem_cons, ho, Option.some.injEq, or_comm, eq_comm]
    · rw [if_pos (.inl ho)]
      refine .cons hm (ih hf' ?_ ht)
      intro i
      rw [hmem, ho]
      simp

theorem contribution_of_member {m : Message} {d : Field} {index : Int}
    (h : m.oneofOf d = some index) : m.contribution d = .member d.name d.number := by
  obtain ⟨hn, hi, he⟩ := role_eq_member.1 (oneofOf_eq_some.1 h)
  simp [Message.contribution, mapEntry?_eq_none.1 hn, hi, he]

/-- The oneofs of the fields in front are closed to the field. -/
def Message.Unseen (m : Message) (seen : List Int) (d : Field) : Prop :=
  ∀ index ∈ seen, m.oneofOf d ≠ some index

instance (m : Message) (seen : List Int) (d : Field) : Decidable (m.Unseen seen d) :=
  inferInstanceAs (Decidable (∀ index ∈ seen, _))

/-- Fields in no oneof already placed are members of the one placed now or in none of them. -/
theorem filter_unseen_perm {m : Message} {seen : List Int} {index : Int} (hi : index ∉ seen)
    (ds : List Field) :
    (ds.filter (fun d => m.oneofOf d = some index)
      ++ ds.filter fun d => m.Unseen (index :: seen) d).Perm
      (ds.filter fun d => m.Unseen seen d) := by
  refine List.Perm.trans (List.Perm.of_eq ?_)
    (List.filter_append_perm (fun d => m.oneofOf d = some index) _)
  rw [List.filter_filter, List.filter_filter]
  congr 1
  · refine List.filter_congr ?_
    intro d _
    by_cases h : m.oneofOf d = some index
    · have hu : m.Unseen seen d := by
        intro i hs ho
        exact hi (Option.some.inj (h.symm.trans ho) ▸ hs)
      simp [h, hu]
    · simp [h]
  · refine List.filter_congr ?_
    intro d _
    rw [Bool.eq_iff_iff]
    simp only [Bool.and_eq_true, Bool.not_eq_true', decide_eq_true_eq, decide_eq_false_iff_not]
    exact List.forall_mem_cons

/-- Each field contributes once, but for the members of oneofs already placed. -/
theorem fieldElements_once {m : Message} {ds : List Field} {seen : List Int}
    {es : List MessageElement} (h : m.fieldElements seen ds = .ok es) :
    (es.flatMap contributions).Perm
      ((ds.filter fun d => m.Unseen seen d).map m.contribution) := by
  induction ds generalizing seen es with
  | nil =>
    cases h
    exact .nil
  | cons d ds ih =>
    rcases fieldElements_cons h with ⟨index, ho, hseen, ht⟩ |
      ⟨index, name, tail, ho, hseen, hn, ht, rfl⟩ | ⟨e, tail, ho, hm, hc, ht, rfl⟩
    · have hd : ¬m.Unseen seen d := fun hall => hall index hseen ho
      rw [List.filter_cons_of_neg (by simpa using hd)]
      exact ih ht
    · have hd : ¬m.Unseen (index :: seen) d := fun hall => hall index List.mem_cons_self ho
      have htail := ih ht
      rw [← List.filter_cons_of_neg (a := d) (by simpa using hd)] at htail
      have hmembers : contributions (.oneof ⟨name,
          ((d :: ds).filter fun d' => m.oneofOf d' = some index).map Field.toSchema⟩) =
          ((d :: ds).filter fun d' => m.oneofOf d' = some index).map m.contribution := by
        rw [contributions, List.map_map]
        refine List.map_congr_left ?_
        intro d' hd'
        have ho' : m.oneofOf d' = some index := by simpa using (List.mem_filter.1 hd').2
        exact (contribution_of_member ho').symm
      rw [List.flatMap_cons, hmembers]
      refine (htail.append_left _).trans ?_
      rw [← List.map_append]
      exact (filter_unseen_perm hseen (d :: ds)).map _
    · have hd : m.Unseen seen d := by simp [Message.Unseen, ho]
      rw [List.filter_cons_of_pos (by simpa using hd), List.flatMap_cons, hc]
      exact (ih ht).cons _

/-! ## Messages -/

theorem toSchema_eq_ok {m : Message} {s : Schema.Message} (h : m.toSchema = .ok s) :
    ∃ own inner, m.fieldElements [] m.fields = .ok own ∧
      nestedElements (fun n => !m.isMadeUp n) m.nested = .ok inner ∧
      s = ⟨m.name, own ++ inner ++ m.closingElements⟩ := by
  obtain ⟨es, he, h⟩ := bind_eq_ok h
  cases h
  obtain ⟨own, ho, he⟩ := bind_eq_ok he
  obtain ⟨inner, hi, he⟩ := bind_eq_ok he
  cases he
  exact ⟨own, inner, ho, hi, rfl⟩

theorem nestedElements_nestedTo {keep : Message → Bool} {ms : List Message}
    {es : List MessageElement} (h : nestedElements keep ms = .ok es) :
    List.Forall₂ NestedTo (ms.filter keep) es := by
  fun_induction nestedElements keep ms generalizing es with
  | case1 =>
    cases h
    exact .nil
  | case2 keep m ms hk _ ih =>
    obtain ⟨own, ho, h⟩ := bind_eq_ok h
    obtain ⟨inner, hi, h⟩ := bind_eq_ok h
    obtain ⟨tail, ht, h⟩ := bind_eq_ok h
    cases h
    rw [List.filter_cons_of_pos hk]
    refine .cons ⟨⟨m.name, _⟩, ?_, rfl⟩ (ih ht)
    simp only [Message.toSchema, Message.elements, ho, hi]
    rfl
  | case3 keep m ms hk ih =>
    rw [List.filter_cons_of_neg hk]
    exact ih h

theorem closingElements_unfielded (m : Message) :
    ∀ e ∈ m.closingElements, ∃ u, e = .statement u ∧ isUnfielded u = true := by
  intro e he
  obtain ⟨u, hu, rfl⟩ := List.mem_map.1 he
  refine ⟨u, rfl, ?_⟩
  simp only [Message.closingStatements, List.mem_append, List.mem_map] at hu
  rcases hu with ((⟨_, _, rfl⟩ | ⟨_, _, rfl⟩) | ⟨_, _, rfl⟩) | ⟨_, _, rfl⟩ <;> rfl

theorem exists_mem_of_forall₂ {α β : Type} {R : α → β → Prop} {as : List α} {bs : List β}
    (h : List.Forall₂ R as bs) {b : β} (hb : b ∈ bs) : ∃ a ∈ as, R a b := by
  induction h with
  | nil => cases hb
  | cons hab _ ih =>
    rcases List.mem_cons.1 hb with rfl | hb
    · exact ⟨_, List.mem_cons_self, hab⟩
    · obtain ⟨a, ha, hr⟩ := ih hb
      exact ⟨a, List.mem_cons_of_mem _ ha, hr⟩

theorem mem_fields_of_mem_leaders {m : Message} {d : Field} (h : d ∈ m.leaders) :
    d ∈ m.fields := by
  obtain ⟨p, hp, rfl⟩ := List.mem_map.1 h
  exact List.fst_mem_of_mem_zipIdx (List.mem_filter.1 hp).1

theorem oneof_ne_nil_of_makes {m : Message} {d : Field} (hd : d ∈ m.fields) {o : Schema.Oneof}
    (h : m.Makes d (.oneof o)) : o.fields ≠ [] := by
  cases h with
  | oneof ho hn =>
    rw [ne_eq, List.map_eq_nil_iff]
    exact List.ne_nil_of_mem (List.mem_filter.2 ⟨hd, by simpa using ho⟩)

theorem convertedTo_of_toSchema {m : Message} {s : Schema.Message} (h : m.toSchema = .ok s) :
    m.ConvertedTo s := by
  obtain ⟨own, inner, ho, hi, rfl⟩ := toSchema_eq_ok h
  have hmakes : List.Forall₂ m.Makes m.leaders own :=
    fieldElements_makes (List.nil_append m.fields).symm (by simp) ho
  have hnested : List.Forall₂ NestedTo (m.nested.filter fun n => m.Keeps n) inner := by
    have hk : (fun n => decide (m.Keeps n)) = fun n => !m.isMadeUp n := by
      funext n
      rw [Bool.eq_iff_iff, decide_eq_true_eq, Bool.not_eq_true', keeps_iff]
    rw [hk]
    exact nestedElements_nestedTo hi
  have hrest := closingElements_unfielded m
  have hinner : inner.flatMap contributions = [] := by
    refine List.flatMap_eq_nil_iff.2 ?_
    intro e he
    obtain ⟨_, _, t, _, rfl⟩ := exists_mem_of_forall₂ hnested he
    rfl
  have hclosing : m.closingElements.flatMap contributions = [] := by
    refine List.flatMap_eq_nil_iff.2 ?_
    intro e he
    obtain ⟨u, rfl, hu⟩ := hrest e he
    cases u <;> first | rfl | cases hu
  refine ⟨rfl, ?_, ?_, own, inner, m.closingElements, rfl, hmakes, hnested, hrest⟩
  · have honce := fieldElements_once ho
    rw [List.filter_eq_self.2 (by simp [Message.Unseen])] at honce
    simpa [List.flatMap_append, hinner, hclosing] using honce
  · intro o hmem
    rcases List.mem_append.1 hmem with hmem | hmem
    · rcases List.mem_append.1 hmem with hmem | hmem
      · obtain ⟨d, hd, hm⟩ := exists_mem_of_forall₂ hmakes hmem
        exact oneof_ne_nil_of_makes (mem_fields_of_mem_leaders hd) hm
      · obtain ⟨_, _, t, _, ht⟩ := exists_mem_of_forall₂ hnested hmem
        cases ht
    · obtain ⟨u, hu, _⟩ := hrest _ hmem
      cases hu

theorem Message.Complete.reaches {m k : Message} (h : m.Complete) (hk : m.Reaches k) :
    k.Complete := by
  induction hk with
  | refl => exact h
  | nested hn kept _ ih => exact ih ((complete_iff.1 h).2 _ hn kept)

theorem toSchema_error_iff {m : Message} :
    (∃ part, m.toSchema = .error part) ↔ ∃ k, m.Reaches k ∧ ∃ d ∈ k.fields, k.Lacks d := by
  have hc : ¬m.Complete ↔ ∃ k, m.Reaches k ∧ ∃ d ∈ k.fields, k.Lacks d := by
    simp only [Message.Complete, supports_iff_not_lacks, not_forall, not_not, exists_prop]
  rw [← hc, ← toSchema_ok_iff]
  cases m.toSchema <;> simp

/-- A message that is converted accounts for each of its fields and nested messages, and so does
every message that the conversion comes to. It fails exactly where one of these lacks what one of
its fields refers to. -/
theorem toSchema_accounts (m : Message) :
    (∀ s, m.toSchema = .ok s →
      m.ConvertedTo s ∧ ∀ k, m.Reaches k → ∃ t, k.toSchema = .ok t ∧ k.ConvertedTo t) ∧
    ((∃ part, m.toSchema = .error part) ↔ ∃ k, m.Reaches k ∧ ∃ d ∈ k.fields, k.Lacks d) := by
  refine ⟨?_, toSchema_error_iff⟩
  intro s h
  refine ⟨convertedTo_of_toSchema h, ?_⟩
  intro k hk
  obtain ⟨t, ht⟩ := toSchema_ok_iff.2 ((toSchema_ok_iff.1 ⟨s, h⟩).reaches hk)
  exact ⟨t, ht, convertedTo_of_toSchema ht⟩

example :
    let inOneof (name : String) (number index : Int) : Field :=
      ⟨name, number, .optional, .string, "", some index, false⟩
    let entry : Message :=
      .mk "TagsEntry" [inOneof "key" 1 0, inOneof "value" 2 0] [] [] [] [] [] [] true
    let m : Message := .mk "Item"
      [inOneof "left" 1 0, ⟨"tags", 2, .repeated, .message, ".p.Item.TagsEntry", none, false⟩,
       inOneof "other" 3 1, inOneof "right" 4 0, ⟨"rest", 5, .optional, .string, "", some 2, true⟩]
      [entry] [] [] [] [] ["either", "or"] false
    m.leaders.map Field.name = ["left", "tags", "other", "rest"] ∧
      m.leaders.map m.contribution =
        [.member "left" 1, .map "tags" 2, .member "other" 3, .plain "rest" 5] := by
  decide

end ServiceScaffold.Descriptor

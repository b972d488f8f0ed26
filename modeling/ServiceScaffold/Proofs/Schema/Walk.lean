import Mathlib.Data.List.Nodup
import ServiceScaffold.Proofs.Schema.Placement
import ServiceScaffold.Schema.Event

/-!
# The order of the events

A declaration is found at its address: the positions on the way down to it from the file. The
addresses in the order of the events are `File.addresses`, and `File.WalkedBy` says what that order
is, with no recursion of its own. A message is visited in two turns, so what holds the proofs
together is that the visits of a node stand in one run within those of any node above it
(`Node.visits_infix`).
-/
namespace ServiceScaffold.Schema

/-! ## Addresses -/

/-- A declaration, or the whole file, with what stands directly in it. The file and a setting inside
a declaration bring no event. -/
structure Node where
  event? : Option Event
  parts : List Node

abbrev Address := List Nat

namespace Node

def isMessage (n : Node) : Bool :=
  match n.event? with
  | some (.message _) => true
  | _ => false

/-- What is found at an address, seen from the node. -/
def at? (n : Node) : Address → Option Node
  | [] => some n
  | i :: a => n.parts[i]?.bind fun p => p.at? a

def eventAt? (n : Node) (a : Address) : Option Event :=
  (n.at? a).bind Node.event?

/-- Whether a part is visited only behind the others. -/
def defers (n p : Node) : Bool :=
  n.isMessage && p.isMessage

mutual

/-- The addresses of all events of a node, in the order of the events. -/
def visits : Node → List Address
  | ⟨event?, parts⟩ =>
    (if event?.isSome then [[]] else [])
      ++ visitsAmong (defers ⟨event?, parts⟩) false 0 parts
      ++ visitsAmong (defers ⟨event?, parts⟩) true 0 parts

def visitsAmong (late : Node → Bool) (turn : Bool) (k : Nat) : List Node → List Address
  | [] => []
  | p :: ps =>
    (if late p = turn then p.visits.map (k :: ·) else []) ++ visitsAmong late turn (k + 1) ps

end

theorem visits_eq (n : Node) :
    n.visits = (if n.event?.isSome then [[]] else []) ++ visitsAmong n.defers false 0 n.parts
      ++ visitsAmong n.defers true 0 n.parts := by
  cases n
  rw [visits]

end Node

/-! ## The nodes of a file -/

def leaf (e : Event) : Node := ⟨some e, []⟩

/-- A setting that brings no event. -/
def silent : Node := ⟨none, []⟩

def Oneof.node (o : Oneof) : Node :=
  ⟨some (.oneof o.name), o.fields.map fun f => leaf (.oneofField f)⟩

mutual

def MessageElement.node : MessageElement → Node
  | .statement s => leaf (.statement s)
  | .oneof o => o.node
  | .setting _ => silent
  | .message name elements => ⟨some (.message name), nodes elements⟩

def nodes : List MessageElement → List Node
  | [] => []
  | e :: es => e.node :: nodes es

end

def Message.node (m : Message) : Node :=
  ⟨some (.message m.name), nodes m.elements⟩

def ServiceElement.node : ServiceElement → Node
  | .rpc r => ⟨some (.rpc r), r.settings.map fun _ => silent⟩
  | .setting _ => silent

def Service.node (s : Service) : Node :=
  ⟨some (.service s.name), s.elements.map ServiceElement.node⟩

def Declaration.node : Declaration → Node
  | .statement s => leaf (.statement s)
  | .setting s => leaf (.setting s)
  | .message m => m.node
  | .service s => s.node

def File.node (f : File) : Node :=
  ⟨none, f.map Declaration.node⟩

/-- The addresses of all events of a file, in the order of the events. -/
def File.addresses (f : File) : List Address :=
  f.node.visits

def File.isMessageAt (f : File) (a : Address) : Bool :=
  (f.node.at? a).any Node.isMessage

/-- Both addresses lead below `a`, the second through the same part as the first or a later one. -/
def InOrder (a b c : Address) : Prop :=
  ∃ i j b' c', b = a ++ i :: b' ∧ c = a ++ j :: c' ∧ i ≤ j

/-- The address leads through an element of the message at `a` that is or is no message. -/
def Through (isMessage : Bool) (a : Address) (m : Message) (b : Address) : Prop :=
  ∃ i b' e, b = a ++ i :: b' ∧ m.elements[i]? = some e ∧ e.node.isMessage = isMessage

/-- The message at `a` is followed by its own elements, in their order, and these by the messages
nested in it, in theirs; nothing else of what stands below it comes before or behind. -/
def MessageRun (as : List Address) (a : Address) (m : Message) : Prop :=
  ∃ front own inner behind, as = front ++ a :: (own ++ inner ++ behind) ∧
    own.Pairwise (InOrder a) ∧ (∀ b ∈ own, Through false a m b) ∧
    inner.Pairwise (InOrder a) ∧ (∀ b ∈ inner, Through true a m b) ∧
    ∀ b ∈ front ++ behind, ¬ a <+: b

/-- The addresses are those of the events, in the order of the events, and the order is the
promised one. -/
structure File.WalkedBy (f : File) (as : List Address) : Prop where
  events : f.events.map some = as.map f.node.eventAt?
  once : as.Nodup
  all : ∀ a, a ∈ as ↔ (f.node.eventAt? a).isSome
  fileOrder : as.Pairwise (InOrder [])
  oneofs : ∀ a o, f.node.at? a = some (Oneof.node o) →
    a :: (List.range o.fields.length).map (fun i => a ++ [i]) <:+: as
  messages : ∀ a m, f.node.at? a = some (Message.node m) → MessageRun as a m
  owners : f.WellPlaced → ∀ front b behind field, as = front ++ b :: behind →
    f.node.eventAt? b = some (.statement (.field field)) →
    ∃ a i, b = a ++ [i] ∧ (front.filter f.isMessageAt).getLast? = some a

/-! ## Visits -/

namespace Node

theorem at?_append (n : Node) (a b : Address) : n.at? (a ++ b) = (n.at? a).bind (·.at? b) := by
  induction a generalizing n with
  | nil => rfl
  | cons i a ih =>
    rw [List.cons_append, at?, at?, Option.bind_assoc]
    exact congrArg _ (funext ih)

theorem mem_visitsAmong {late : Node → Bool} {turn : Bool} {k : Nat} {ps : List Node}
    {a : Address} :
    a ∈ visitsAmong late turn k ps ↔
      ∃ i p b, ps[i]? = some p ∧ late p = turn ∧ b ∈ p.visits ∧ a = (k + i) :: b := by
  induction ps generalizing k with
  | nil => simp [visitsAmong]
  | cons q ps ih =>
    rw [visitsAmong, List.mem_append, ih]
    constructor
    · intro h
      rcases h with h | ⟨i, p, b, hp, ht, hb, rfl⟩
      · by_cases ht : late q = turn
        · rw [if_pos ht] at h
          obtain ⟨b, hb, rfl⟩ := List.mem_map.1 h
          exact ⟨0, q, b, rfl, ht, hb, rfl⟩
        · rw [if_neg ht] at h
          cases h
      · exact ⟨i + 1, p, b, hp, ht, hb, by rw [Nat.add_right_comm]; rfl⟩
    · intro h
      obtain ⟨i, p, b, hp, ht, hb, rfl⟩ := h
      cases i with
      | zero =>
        obtain rfl : q = p := by simpa using hp
        rw [if_pos ht]
        exact .inl (List.mem_map_of_mem hb)
      | succ i => exact .inr ⟨i, p, b, hp, ht, hb, by rw [Nat.add_right_comm]; rfl⟩

theorem nil_mem_visits {n : Node} : [] ∈ n.visits ↔ n.event?.isSome := by
  rw [visits_eq, List.mem_append, List.mem_append]
  cases n.event? <;> simp [mem_visitsAmong]

theorem cons_mem_visits {n : Node} {i : Nat} {a : Address} :
    i :: a ∈ n.visits ↔ ∃ p, n.parts[i]? = some p ∧ a ∈ p.visits := by
  rw [visits_eq, List.mem_append, List.mem_append, mem_visitsAmong, mem_visitsAmong]
  constructor
  · intro h
    rcases h with (h | ⟨j, p, b, hp, _, hb, he⟩) | ⟨j, p, b, hp, _, hb, he⟩
    · cases hn : n.event? <;> simp [hn] at h
    all_goals
      obtain ⟨rfl, rfl⟩ : i = j ∧ a = b := by simpa using he
      exact ⟨p, hp, hb⟩
  · intro h
    obtain ⟨p, hp, ha⟩ := h
    cases ht : n.defers p with
    | false => exact .inl (.inr ⟨i, p, a, hp, ht, ha, by simp⟩)
    | true => exact .inr ⟨i, p, a, hp, ht, ha, by simp⟩

theorem mem_visits {n : Node} {a : Address} : a ∈ n.visits ↔ (n.eventAt? a).isSome := by
  induction a generalizing n with
  | nil => exact nil_mem_visits
  | cons i a ih =>
    rw [cons_mem_visits, eventAt?, at?]
    cases hp : n.parts[i]? with
    | none => simp
    | some p => simpa [eventAt?] using ih (n := p)

mutual

theorem nodup_visits : ∀ n : Node, n.visits.Nodup
  | ⟨event?, parts⟩ => by
    have disjoint : ∀ a ∈ visitsAmong (defers ⟨event?, parts⟩) false 0 parts,
        ∀ b ∈ visitsAmong (defers ⟨event?, parts⟩) true 0 parts, a ≠ b := by
      intro a ha b hb he
      obtain ⟨i, p, a', hp, ht, _, rfl⟩ := mem_visitsAmong.1 ha
      obtain ⟨j, q, b', hq, hu, _, rfl⟩ := mem_visitsAmong.1 hb
      obtain ⟨rfl, rfl⟩ : i = j ∧ a' = b' := by simpa using he
      rw [hp] at hq
      cases hq
      exact absurd (ht.symm.trans hu) Bool.false_ne_true
    rw [visits, List.append_assoc]
    refine List.nodup_append.2 ⟨?_, List.nodup_append.2
      ⟨nodup_visitsAmong _ _ _ parts, nodup_visitsAmong _ _ _ parts, disjoint⟩, ?_⟩
    · split <;> simp
    · intro a ha b hb he
      subst he
      obtain rfl : a = [] := by
        split at ha <;> simp_all
      rcases List.mem_append.1 hb with hb | hb <;>
        simp [mem_visitsAmong] at hb

theorem nodup_visitsAmong (late : Node → Bool) (turn : Bool) (k : Nat) :
    ∀ ps : List Node, (visitsAmong late turn k ps).Nodup
  | [] => by simp [visitsAmong]
  | p :: ps => by
    rw [visitsAmong]
    refine List.nodup_append.2 ⟨?_, nodup_visitsAmong late turn (k + 1) ps, ?_⟩
    · split
      · exact List.Nodup.map (List.cons_injective) (nodup_visits p)
      · exact List.nodup_nil
    · intro a ha b hb he
      obtain ⟨i, q, c, _, _, _, rfl⟩ := mem_visitsAmong.1 hb
      split at ha
      · obtain ⟨c', _, rfl⟩ := List.mem_map.1 ha
        have := (List.cons.inj he).1
        omega
      · cases ha

end

theorem visitsAmong_infix {late : Node → Bool} {turn : Bool} {ps : List Node} {i : Nat} {p : Node}
    (hp : ps[i]? = some p) (ht : late p = turn) (k : Nat) :
    p.visits.map ((k + i) :: ·) <:+: visitsAmong late turn k ps := by
  induction ps generalizing k i with
  | nil => cases hp
  | cons q ps ih =>
    rw [visitsAmong]
    cases i with
    | zero =>
      obtain rfl : q = p := by simpa using hp
      rw [if_pos ht]
      exact (List.prefix_append _ _).isInfix
    | succ i =>
      have h := ih (i := i) hp (k + 1)
      rw [Nat.add_right_comm] at h
      exact h.trans (List.suffix_append _ _).isInfix

/-- All visits of what is found at an address come one after the other. -/
theorem visits_infix {n m : Node} {a : Address} (h : n.at? a = some m) :
    m.visits.map (a ++ ·) <:+: n.visits := by
  induction a generalizing n with
  | nil =>
    obtain rfl : n = m := Option.some.inj h
    simp
  | cons i a ih =>
    obtain ⟨p, hp, h⟩ := Option.bind_eq_some_iff.1 h
    have hm : m.visits.map (i :: a ++ ·) = (m.visits.map (a ++ ·)).map (i :: ·) := by
      simp [Function.comp_def]
    have hi : ∀ turn, n.defers p = turn →
        (p.visits.map (i :: ·)) <:+: visitsAmong n.defers turn 0 n.parts := by
      intro turn ht
      simpa using visitsAmong_infix hp ht 0
    rw [hm, visits_eq n]
    refine ((ih h).map _).trans ?_
    cases ht : n.defers p with
    | false =>
      refine (hi false ht).trans ?_
      exact ((List.suffix_append _ _).isInfix).trans (List.prefix_append _ _).isInfix
    | true => exact (hi true ht).trans (List.suffix_append _ _).isInfix

theorem visitsAmong_inOrder (late : Node → Bool) (turn : Bool) (k : Nat) (ps : List Node) :
    (visitsAmong late turn k ps).Pairwise (InOrder []) := by
  induction ps generalizing k with
  | nil => simp [visitsAmong]
  | cons p ps ih =>
    rw [visitsAmong]
    refine List.pairwise_append.2 ⟨?_, ih (k + 1), ?_⟩
    · split
      · refine List.pairwise_map.2 (List.pairwise_of_forall ?_)
        intro b c
        exact ⟨k, k, b, c, rfl, rfl, Nat.le_refl k⟩
      · exact List.Pairwise.nil
    · intro a ha b hb
      obtain ⟨i, q, c, _, _, _, rfl⟩ := mem_visitsAmong.1 hb
      split at ha
      · obtain ⟨c', _, rfl⟩ := List.mem_map.1 ha
        exact ⟨k, k + 1 + i, c', c, rfl, rfl, by omega⟩
      · cases ha

/-! ## Events -/

/-- The events of a node as its addresses tell them. -/
def heard (n : Node) : List (Option Event) :=
  n.visits.map n.eventAt?

theorem map_eventAt?_visitsAmong {n : Node} {late : Node → Bool} {turn : Bool} {k : Nat}
    {ps : List Node} (h : ∀ i, n.parts[k + i]? = ps[i]?) :
    (visitsAmong late turn k ps).map n.eventAt? =
      (ps.filter fun p => late p = turn).flatMap heard := by
  induction ps generalizing k with
  | nil => rfl
  | cons p ps ih =>
    have hp : n.parts[k]? = some p := h 0
    have hps : ∀ i, n.parts[k + 1 + i]? = ps[i]? := by
      intro i
      rw [Nat.add_right_comm]
      exact h (i + 1)
    have hk : (p.visits.map (k :: ·)).map n.eventAt? = p.heard := by
      simp [heard, eventAt?, at?, hp, Function.comp_def]
    rw [visitsAmong, List.map_append, ih hps]
    by_cases ht : late p = turn
    · rw [if_pos ht, hk, List.filter_cons_of_pos (by simpa using ht), List.flatMap_cons]
    · rw [if_neg ht, List.filter_cons_of_neg (by simpa using ht)]
      rfl

theorem heard_eq (n : Node) :
    n.heard = n.event?.toList.map some ++ (n.parts.filter fun p => !n.defers p).flatMap heard
      ++ (n.parts.filter n.defers).flatMap heard := by
  have among (turn : Bool) : (visitsAmong n.defers turn 0 n.parts).map n.eventAt? =
      (n.parts.filter fun p => n.defers p = turn).flatMap heard :=
    map_eventAt?_visitsAmong fun i => by rw [Nat.zero_add]
  rw [heard, visits_eq, List.map_append, List.map_append, among false, among true]
  cases hn : n.event? <;> simp [eventAt?, at?, hn]

/-- Only a message is heard in two turns. -/
theorem heard_of_not_isMessage {n : Node} (h : n.isMessage = false) :
    n.heard = n.event?.toList.map some ++ n.parts.flatMap heard := by
  have hd : n.defers = fun _ => false := by
    funext p
    simp [defers, h]
  simp [heard_eq n, hd]

end Node

open Node

theorem heard_leaf (e : Event) : (leaf e).heard = [some e] := by
  simp [heard_eq, leaf]

theorem heard_silent : silent.heard = [] := by
  simp [heard_eq, silent]

theorem heard_oneof (o : Oneof) :
    o.node.heard = (MessageElement.ownEvents (.oneof o)).map some := by
  have hm : (o.fields.map fun f => leaf (.oneofField f)).flatMap heard =
      o.fields.map fun f => some (.oneofField f) := by
    simp [List.flatMap_map, heard_leaf, ← List.map_eq_flatMap]
  rw [heard_of_not_isMessage rfl, Oneof.node, hm]
  simp [MessageElement.ownEvents]

theorem heard_own (es : List MessageElement) :
    ((nodes es).filter fun p => !p.isMessage).flatMap heard =
      (es.flatMap MessageElement.ownEvents).map some := by
  induction es with
  | nil => rfl
  | cons e es ih =>
    rw [nodes, List.flatMap_cons, List.map_append, ← ih]
    cases e with
    | statement s => exact congrArg (· ++ _) (heard_leaf _)
    | oneof o => exact congrArg (· ++ _) (heard_oneof o)
    | setting s => exact congrArg (· ++ _) heard_silent
    | message name elements => rfl

theorem heard_message (name : String) (es : List MessageElement) :
    (MessageElement.node (.message name es)).heard =
      some (.message name) :: (es.flatMap MessageElement.ownEvents).map some
        ++ ((nodes es).filter isMessage).flatMap heard := by
  rw [heard_eq, ← heard_own]
  rfl

theorem heard_nested (es : List MessageElement) :
    ((nodes es).filter isMessage).flatMap heard = (nestedEvents es).map some := by
  induction es using nestedEvents.induct with
  | case1 =>
    rw [nestedEvents]
    rfl
  | case2 name elements rest ihInner ihRest =>
    have hf : (nodes (.message name elements :: rest)).filter isMessage =
        MessageElement.node (.message name elements) :: (nodes rest).filter isMessage := rfl
    rw [hf, List.flatMap_cons, heard_message, ihInner, ihRest, nestedEvents]
    simp
  | case3 e rest hne ih =>
    rw [nestedEvents, ← ih]
    · cases e with
      | message name elements => exact absurd rfl (hne name elements)
      | _ => rfl
    · exact hne

theorem Message.heard_node (m : Message) : m.node.heard = m.events.map some := by
  have h := heard_message m.name m.elements
  rw [heard_nested, ← List.map_cons, ← List.map_append] at h
  exact h

theorem heard_rpc (r : Rpc) : (ServiceElement.node (.rpc r)).heard = [some (.rpc r)] := by
  rw [heard_of_not_isMessage rfl]
  simp [ServiceElement.node, heard_silent]

theorem heard_serviceElements (es : List ServiceElement) :
    (es.map ServiceElement.node).flatMap heard =
      (es.filterMap fun
        | .rpc r => some r
        | .setting _ => none).map fun r => some (.rpc r) := by
  induction es with
  | nil => rfl
  | cons e es ih =>
    rw [List.map_cons, List.flatMap_cons, ih]
    cases e with
    | rpc r => exact congrArg (· ++ _) (heard_rpc r)
    | setting s => exact congrArg (· ++ _) heard_silent

theorem Service.heard_node (s : Service) : s.node.heard = s.events.map some := by
  rw [heard_of_not_isMessage rfl, Service.node, heard_serviceElements, Service.events,
    Service.rpcs, List.map_cons, List.map_map]
  rfl

theorem Declaration.heard_node (d : Declaration) : d.node.heard = d.events.map some := by
  cases d with
  | statement s => exact heard_leaf _
  | setting s => exact heard_leaf _
  | message m => exact m.heard_node
  | service s => exact s.heard_node

theorem File.heard_node (f : File) : f.node.heard = f.events.map some := by
  rw [heard_of_not_isMessage rfl]
  simp [File.node, File.events, List.flatMap_map, Declaration.heard_node, List.map_flatMap]

/-! ## What stands where -/

theorem nodes_eq_map (es : List MessageElement) : nodes es = es.map MessageElement.node := by
  induction es with
  | nil => rfl
  | cons e es ih => rw [nodes, ih, List.map_cons]

theorem getElem?_nodes {es : List MessageElement} {i : Nat} {p : Node}
    (h : (nodes es)[i]? = some p) : ∃ e, es[i]? = some e ∧ e.node = p := by
  rw [nodes_eq_map, List.getElem?_map] at h
  exact Option.map_eq_some_iff.1 h

theorem at?_of_parts_eq_nil {n m : Node} (hn : n.parts = []) {a : Address} (h : n.at? a = some m) :
    a = [] ∧ m = n := by
  cases a with
  | nil => exact ⟨rfl, (Option.some.inj h).symm⟩
  | cons i a => simp [at?, hn] at h

/-- What stands in a oneof is one of its members. -/
theorem Oneof.at?_cons {o : Oneof} {i : Nat} {a : Address} {n : Node}
    (h : o.node.at? (i :: a) = some n) : ∃ f, a = [] ∧ n = leaf (.oneofField f) := by
  obtain ⟨p, hp, h⟩ := Option.bind_eq_some_iff.1 h
  rw [Oneof.node, List.getElem?_map] at hp
  obtain ⟨f, _, rfl⟩ := Option.map_eq_some_iff.1 hp
  exact ⟨f, at?_of_parts_eq_nil rfl h⟩

/-- Nothing in an element is a message unless the element is. -/
theorem not_isMessage_of_at? {e : MessageElement} (he : e.node.isMessage = false) {a : Address}
    {n : Node} (h : e.node.at? a = some n) : n.isMessage = false := by
  cases e with
  | statement s =>
    obtain ⟨_, rfl⟩ := at?_of_parts_eq_nil rfl h
    rfl
  | setting s =>
    obtain ⟨_, rfl⟩ := at?_of_parts_eq_nil rfl h
    rfl
  | oneof o =>
    cases a with
    | nil =>
      obtain rfl : o.node = n := Option.some.inj h
      rfl
    | cons i a =>
      obtain ⟨f, _, rfl⟩ := Oneof.at?_cons h
      rfl
  | message name elements => cases he

theorem Message.parent_of_field {m : Message} {b : Address} {n : Node} {field : Field}
    (h : m.node.at? b = some n) (hn : n.event? = some (.statement (.field field))) :
    ∃ a i m', b = a ++ [i] ∧ m.node.at? a = some (Message.node m') := by
  induction b generalizing m with
  | nil =>
    obtain rfl : m.node = n := Option.some.inj h
    cases hn
  | cons i b ih =>
    obtain ⟨p, hp, h⟩ := Option.bind_eq_some_iff.1 h
    obtain ⟨e, _, rfl⟩ := getElem?_nodes hp
    cases e with
    | statement s =>
      obtain ⟨rfl, _⟩ := at?_of_parts_eq_nil rfl h
      exact ⟨[], i, m, rfl, rfl⟩
    | setting s =>
      obtain ⟨_, rfl⟩ := at?_of_parts_eq_nil rfl h
      cases hn
    | oneof o =>
      cases b with
      | nil =>
        obtain rfl : o.node = n := Option.some.inj h
        cases hn
      | cons j b =>
        obtain ⟨f, _, rfl⟩ := Oneof.at?_cons h
        cases hn
    | message name elements =>
      obtain ⟨a, j, m', rfl, hm⟩ := ih (m := ⟨name, elements⟩) h
      refine ⟨i :: a, j, m', rfl, ?_⟩
      rw [at?, hp]
      exact hm

theorem Service.ne_field_of_at? {s : Service} {b : Address} {n : Node} (h : s.node.at? b = some n)
    (field : Field) : n.event? ≠ some (.statement (.field field)) := by
  intro hn
  cases b with
  | nil =>
    obtain rfl : s.node = n := Option.some.inj h
    cases hn
  | cons i b =>
    obtain ⟨p, hp, h⟩ := Option.bind_eq_some_iff.1 h
    rw [Service.node, List.getElem?_map] at hp
    obtain ⟨e, _, rfl⟩ := Option.map_eq_some_iff.1 hp
    cases e with
    | setting t =>
      obtain ⟨_, rfl⟩ := at?_of_parts_eq_nil rfl h
      cases hn
    | rpc r =>
      cases b with
      | nil =>
        obtain rfl : ServiceElement.node (.rpc r) = n := Option.some.inj h
        cases hn
      | cons j b =>
        obtain ⟨p, hp, h⟩ := Option.bind_eq_some_iff.1 h
        rw [ServiceElement.node, List.getElem?_map] at hp
        obtain ⟨t, _, rfl⟩ := Option.map_eq_some_iff.1 hp
        obtain ⟨_, rfl⟩ := at?_of_parts_eq_nil rfl h
        cases hn

/-- A field stands in a message. -/
theorem File.parent_of_field {f : File} (hw : f.WellPlaced) {b : Address} {n : Node} {field : Field}
    (h : f.node.at? b = some n) (hn : n.event? = some (.statement (.field field))) :
    ∃ a i m, b = a ++ [i] ∧ f.node.at? a = some (Message.node m) := by
  cases b with
  | nil =>
    obtain rfl : f.node = n := Option.some.inj h
    cases hn
  | cons i b =>
    obtain ⟨p, hp, h⟩ := Option.bind_eq_some_iff.1 h
    have hparts := hp
    rw [File.node, List.getElem?_map] at hparts
    obtain ⟨d, hd, rfl⟩ := Option.map_eq_some_iff.1 hparts
    cases d with
    | statement s =>
      obtain ⟨_, rfl⟩ := at?_of_parts_eq_nil rfl h
      obtain rfl : s = .field field := by simpa [Declaration.node, leaf] using hn
      exact absurd (hw _ (List.mem_of_getElem? hd)) Bool.false_ne_true
    | setting s =>
      obtain ⟨_, rfl⟩ := at?_of_parts_eq_nil rfl h
      cases hn
    | message m =>
      obtain ⟨a, j, m', rfl, hm⟩ := m.parent_of_field h hn
      refine ⟨i :: a, j, m', rfl, ?_⟩
      rw [at?, hp]
      exact hm
    | service s => exact absurd hn (Service.ne_field_of_at? h field)

/-! ## The walk -/

theorem InOrder.prepend {b c : Address} (h : InOrder [] b c) (a : Address) :
    InOrder a (a ++ b) (a ++ c) := by
  obtain ⟨i, j, b', c', rfl, rfl, hij⟩ := h
  exact ⟨i, j, b', c', rfl, rfl, hij⟩

/-- Of one turn the addresses come in order and lead through the elements of that turn. -/
theorem turn_run (m : Message) (turn : Bool) (a : Address) :
    ((visitsAmong m.node.defers turn 0 (nodes m.elements)).map (a ++ ·)).Pairwise (InOrder a) ∧
      ∀ b ∈ (visitsAmong m.node.defers turn 0 (nodes m.elements)).map (a ++ ·),
        Through turn a m b := by
  constructor
  · exact List.pairwise_map.2 ((visitsAmong_inOrder ..).imp fun h => h.prepend a)
  · intro b hb
    obtain ⟨c, hc, rfl⟩ := List.mem_map.1 hb
    obtain ⟨i, p, b', hp, ht, _, rfl⟩ := mem_visitsAmong.1 hc
    obtain ⟨e, he, rfl⟩ := getElem?_nodes hp
    exact ⟨i, b', e, by rw [Nat.zero_add], he, ht⟩

theorem messageRun {f : File} {a : Address} {m : Message} (h : f.node.at? a = some m.node) :
    MessageRun f.addresses a m := by
  obtain ⟨front, behind, hf⟩ := visits_infix h
  have hv : m.node.visits = [] :: (visitsAmong m.node.defers false 0 (nodes m.elements)
      ++ visitsAmong m.node.defers true 0 (nodes m.elements)) := by
    rw [visits_eq]
    rfl
  obtain ⟨hown, hthrough⟩ := turn_run m false a
  obtain ⟨hinner, hthrough'⟩ := turn_run m true a
  refine ⟨front, _, _, behind, ?_, hown, hthrough, hinner, hthrough', ?_⟩
  · rw [File.addresses, ← hf, hv]
    simp
  · intro b hb hab
    obtain ⟨c, rfl⟩ := hab
    -- what stands below the message is visited in the run, so not once more outside of it
    have hall : a ++ c ∈ f.addresses := by
      rw [File.addresses, ← hf]
      rcases List.mem_append.1 hb with hb | hb <;> simp [hb]
    have hc : c ∈ m.node.visits := by
      have he := mem_visits.1 hall
      rw [eventAt?, at?_append, h] at he
      exact mem_visits.2 he
    have hrun : a ++ c ∈ m.node.visits.map (a ++ ·) := List.mem_map_of_mem hc
    have hnodup := nodup_visits f.node
    rw [← hf, List.append_assoc] at hnodup
    obtain ⟨_, hright, hfront⟩ := List.nodup_append.1 hnodup
    obtain ⟨_, _, hbehind⟩ := List.nodup_append.1 hright
    rcases List.mem_append.1 hb with hb | hb
    · exact hfront _ hb _ (List.mem_append_left _ hrun) rfl
    · exact hbehind _ hrun _ hb rfl

theorem oneof_visits (o : Oneof) :
    o.node.visits = [] :: (List.range o.fields.length).map fun i => [i] := by
  have among (turn : Bool) (k : Nat) (fs : List Field) :
      visitsAmong o.node.defers turn k (fs.map fun f => leaf (.oneofField f)) =
        if turn then [] else (List.range' k fs.length).map fun i => [i] := by
    induction fs generalizing k with
    | nil => cases turn <;> rfl
    | cons f fs ih =>
      rw [List.map_cons, visitsAmong, ih]
      cases turn <;> rfl
  rw [visits_eq]
  refine (congrArg₂ (fun xs ys => [[]] ++ xs ++ ys) (among false 0 o.fields)
    (among true 0 o.fields)).trans ?_
  simp [List.range_eq_range']

theorem at?_element {n : Node} {a : Address} {m : Message} (h : n.at? a = some m.node) {i : Nat}
    {e : MessageElement} (he : m.elements[i]? = some e) (c : Address) :
    n.at? (a ++ i :: c) = e.node.at? c := by
  have hp : m.node.parts[i]? = some e.node := by
    rw [Message.node, nodes_eq_map, List.getElem?_map, he]
    rfl
  rw [at?_append, h, Option.bind_some, at?, hp, Option.bind_some]

/-- Between a message and its fields no other message is visited. -/
theorem not_isMessageAt_of_through {f : File} {a : Address} {m : Message}
    (h : f.node.at? a = some m.node) {b : Address} (hb : Through false a m b) :
    f.isMessageAt b = false := by
  obtain ⟨i, c, e, rfl, he, hmsg⟩ := hb
  rw [File.isMessageAt, at?_element h he]
  cases hc : e.node.at? c with
  | none => rfl
  | some n => exact not_isMessage_of_at? hmsg hc

/-- In front of an element of `own` the last one with the property is the one before them. -/
theorem getLast?_filter_of_mem {α : Type} {q : α → Bool} {a b : α}
    {front own rest before behind : List α}
    (hcut : front ++ a :: (own ++ rest) = before ++ b :: behind)
    (honce : (before ++ b :: behind).Nodup) (hb : b ∈ own) (ha : q a = true)
    (hown : ∀ c ∈ own, q c = false) : (before.filter q).getLast? = some a := by
  obtain ⟨own₁, own₂, rfl⟩ := List.append_of_mem hb
  have hsplit : front ++ a :: own₁ ++ b :: (own₂ ++ rest) = before ++ b :: behind := by
    rw [← hcut]
    simp
  have hnot : b ∉ front ++ a :: own₁ ++ (own₂ ++ rest) := by
    rw [← hsplit] at honce
    exact (List.nodup_cons.1 (List.nodup_middle.1 honce)).1
  obtain ⟨rfl, _⟩ := (List.append_cons_inj_of_notMem (fun h => hnot (List.mem_append_left _ h))
    fun h => hnot (List.mem_append_right _ h)).1 hsplit
  have hnone : own₁.filter q = [] := by
    refine List.filter_eq_nil_iff.2 ?_
    intro c hc
    simp [hown c (List.mem_append_left _ hc)]
  rw [List.filter_append, List.filter_cons_of_pos ha, hnone]
  simp

/-- The message that opened last before a field is the one in which the field stands. -/
theorem owner_of_field {f : File} (hw : f.WellPlaced) {front behind : List Address} {b : Address}
    (hf : f.addresses = front ++ b :: behind) {field : Field}
    (hb : f.node.eventAt? b = some (.statement (.field field))) :
    ∃ a i, b = a ++ [i] ∧ (front.filter f.isMessageAt).getLast? = some a := by
  obtain ⟨n, hn, hfield⟩ := Option.bind_eq_some_iff.1 hb
  obtain ⟨a, i, m, rfl, hm⟩ := File.parent_of_field hw hn hfield
  refine ⟨a, i, rfl, ?_⟩
  obtain ⟨front', own, inner, behind', hrun, _, hown, _, hinner, houtside⟩ := messageRun hm
  have hnotInner : a ++ [i] ∉ inner := by
    intro h
    obtain ⟨j, c, e, he, hj, hmsg⟩ := hinner _ h
    obtain ⟨rfl, rfl⟩ : i = j ∧ c = [] := by simpa using he
    obtain rfl : e.node = n := Option.some.inj ((at?_element hm hj []).symm.trans hn)
    simp [isMessage, hfield] at hmsg
  have hnotOutside : a ++ [i] ∉ front' ++ behind' :=
    fun h => houtside _ h (List.prefix_append a [i])
  have hmem : a ++ [i] ∈ own := by
    have hall : a ++ [i] ∈ front' ++ a :: (own ++ inner ++ behind') := by
      rw [← hrun, hf]
      simp
    simp only [List.mem_append, List.mem_cons, not_or] at hall hnotOutside
    have hne : a ++ [i] ≠ a := by simp
    grind
  have hcut : front' ++ a :: (own ++ (inner ++ behind')) = front ++ (a ++ [i]) :: behind := by
    rw [← hf, hrun, List.append_assoc]
  have honce : (front ++ (a ++ [i]) :: behind).Nodup := hf ▸ nodup_visits f.node
  have ha : f.isMessageAt a = true := by
    rw [File.isMessageAt, hm]
    rfl
  exact getLast?_filter_of_mem hcut honce hmem ha fun b hb => not_isMessageAt_of_through hm (hown b hb)

/-- The events of every file come in the promised order, one for each declaration. -/
theorem walkedBy_addresses (f : File) : f.WalkedBy f.addresses where
  events := (File.heard_node f).symm
  once := nodup_visits f.node
  all := fun _ => mem_visits
  fileOrder := by
    have hv : f.addresses = visitsAmong f.node.defers false 0 f.node.parts
        ++ visitsAmong f.node.defers true 0 f.node.parts := visits_eq f.node
    have hlate : visitsAmong f.node.defers true 0 f.node.parts = [] := by
      refine List.eq_nil_iff_forall_not_mem.2 ?_
      intro a ha
      obtain ⟨_, _, _, _, ht, _⟩ := mem_visitsAmong.1 ha
      cases ht
    rw [hv, hlate, List.append_nil]
    exact visitsAmong_inOrder ..
  oneofs := by
    intro a o h
    have hi := visits_infix h
    rw [oneof_visits, List.map_cons, List.append_nil, List.map_map] at hi
    exact hi
  messages := fun _ _ => messageRun
  owners := fun hw _ _ _ _ hf hb => owner_of_field hw hf hb

example :
    File.addresses
      [.message ⟨"Item",
        [.message "Part" [.statement (.field ⟨"Kind", "kind", 1, false, .bare⟩)],
         .setting ⟨"deprecated", "true"⟩,
         .oneof ⟨"either", [⟨"int32", "left", 2, false, .bare⟩]⟩,
         .statement (.reserved "3")]⟩,
       .statement (.package "p")] =
      [[0], [0, 2], [0, 2, 0], [0, 3], [0, 0], [0, 0, 0], [1]] := by
  decide

end ServiceScaffold.Schema

import ServiceScaffold.Text.Utf8

/-!
# The binary wire format

A serialised message is a sequence of numbered values. `Layout` says which numbers of a message
hold messages and which hold packed integers; `decode` reads the bytes into a tree along a layout
and leaves out what the layout does not reach: groups, whose nesting is checked all the same, and
fixed-width values. Nesting is limited to `depthLimit` levels below the outermost message.
-/
namespace ServiceScaffold.Descriptor.Wire

inductive Fault where
  | corrupt
  | tooDeep
  deriving DecidableEq, Repr

def Fault.text : Fault → String
  | .corrupt => "Wire format was corrupt"
  | .tooDeep => "Exceeded upb_DecodeOptions_MaxDepth"

/-! ## Single values -/

/-- The bound of an unsigned integer of sixty-four bits. -/
def wordSize : Nat := 0x10000000000000000

/-- The bound of an unsigned integer of thirty-two bits. -/
def halfWordSize : Nat := 0x100000000

/-- Base 128, lowest digit first, in at most `limit` bytes. -/
def varint? : (limit : Nat) → Bytes → Option (Nat × Bytes)
  | 0, _ => none
  | _ + 1, [] => none
  | limit + 1, b :: bs =>
    if b < 128 then some (b.toNat, bs)
    else (varint? limit bs).map fun (n, rest) => (b.toNat - 128 + 128 * n, rest)

theorem varint?_length {limit n : Nat} {bs rest : Bytes}
    (h : varint? limit bs = some (n, rest)) : rest.length < bs.length := by
  induction limit generalizing bs n with
  | zero => cases h
  | succ limit ih =>
    cases bs with
    | nil => cases h
    | cons b bs =>
      simp only [varint?] at h
      split at h
      · cases h
        exact Nat.lt_succ_self _
      · obtain ⟨⟨m, r⟩, hm, he⟩ := Option.map_eq_some_iff.1 h
        cases he
        exact Nat.lt_succ_of_lt (ih hm)

def take? (n : Nat) (bs : Bytes) : Option (Bytes × Bytes) :=
  if n ≤ bs.length then some (bs.take n, bs.drop n) else none

inductive Item where
  | varint (n : Nat)
  | fixed
  | bytes (bs : Bytes)
  | startGroup
  | endGroup
  deriving DecidableEq, Repr

/-- A value of the wire type `code`. -/
def payload? (code : Nat) (bs : Bytes) : Option (Item × Bytes) :=
  match code with
  | 0 => (varint? 10 bs).map fun (n, rest) => (.varint (n % wordSize), rest)
  | 1 => (take? 8 bs).map fun (_, rest) => (.fixed, rest)
  | 2 => do
    let (size, rest) ← varint? 5 bs
    let (body, rest) ← take? size rest
    pure (.bytes body, rest)
  | 3 => some (.startGroup, bs)
  | 4 => some (.endGroup, bs)
  | 5 => (take? 4 bs).map fun (_, rest) => (.fixed, rest)
  | _ => none

theorem payload?_length {code : Nat} {bs rest : Bytes} {item : Item}
    (h : payload? code bs = some (item, rest)) : rest.length ≤ bs.length := by
  have drop_le : ∀ {n : Nat} {cs body rest : Bytes}, take? n cs = some (body, rest) →
      rest.length ≤ cs.length := by
    intro n cs body rest h
    unfold take? at h
    split at h <;> cases h
    simp
  unfold payload? at h
  split at h
  · obtain ⟨⟨n, r⟩, hn, he⟩ := Option.map_eq_some_iff.1 h
    cases he
    exact Nat.le_of_lt (varint?_length hn)
  · obtain ⟨⟨n, r⟩, hn, he⟩ := Option.map_eq_some_iff.1 h
    cases he
    exact drop_le hn
  · obtain ⟨⟨n, r⟩, hn, h⟩ := Option.bind_eq_some_iff.1 h
    obtain ⟨⟨body, r'⟩, hb, h⟩ := Option.bind_eq_some_iff.1 h
    cases h
    exact Nat.le_trans (drop_le hb) (Nat.le_of_lt (varint?_length hn))
  · cases h
    exact Nat.le_refl _
  · cases h
    exact Nat.le_refl _
  · obtain ⟨⟨n, r⟩, hn, he⟩ := Option.map_eq_some_iff.1 h
    cases he
    exact drop_le hn
  · cases h

/-- A field number and the value behind it. -/
def item? (bs : Bytes) : Option (Nat × Item × Bytes) := do
  let (tag, rest) ← varint? 5 bs
  if halfWordSize ≤ tag then none
  else
    let (item, rest) ← payload? (tag % 8) rest
    pure (tag / 8, item, rest)

theorem item?_length {bs rest : Bytes} {number : Nat} {item : Item}
    (h : item? bs = some (number, item, rest)) : rest.length < bs.length := by
  obtain ⟨⟨tag, r⟩, ht, h⟩ := Option.bind_eq_some_iff.1 h
  simp only at h
  split at h
  · cases h
  · obtain ⟨⟨i, r'⟩, hp, h⟩ := Option.bind_eq_some_iff.1 h
    cases h
    exact Nat.lt_of_le_of_lt (payload?_length hp) (varint?_length ht)

/-- The integers of a packed field. -/
def packed? (bs : Bytes) : Option (List Nat) :=
  match bs with
  | [] => some []
  | b :: cs =>
    match h : varint? 10 (b :: cs) with
    | none => none
    | some (n, rest) =>
      have := varint?_length h
      (packed? rest).map (n % wordSize :: ·)
termination_by bs.length
decreasing_by assumption

/-! ## Messages -/

/-- What a message holds: integers, texts and bytes, and messages, each under its number. -/
inductive Content where
  | varint (n : Nat)
  | bytes (bs : Bytes)
  | message (records : List (Nat × Content))
  deriving Repr

abbrev Records := List (Nat × Content)

theorem Content.sizeOf_records_lt (number : Nat) (inner rest : Records) :
    sizeOf inner < sizeOf ((number, Content.message inner) :: rest) := by
  simp only [List.cons.sizeOf_spec, Prod.mk.sizeOf_spec, Content.message.sizeOf_spec]
  omega

/-- How the fields of a message are to be read. A layout is named, since layouts contain
themselves. -/
structure Layout (Name : Type) where
  message? : Name → Nat → Option Name
  packed : Name → Nat → Bool

def depthLimit : Nat := 100

/-- Reads the items of one level. `openGroups` are the groups entered and not left, innermost
first; `depth` is how many levels may still be entered from this one, and `handle` says what a
value outside all groups contributes. The number zero is refused outside all groups only. -/
def levelFrom (depth : Nat) (handle : Nat → Item → Except Fault Records)
    (openGroups : List Nat) (bs : Bytes) : Except Fault Records :=
  match bs with
  | [] => if openGroups.isEmpty then .ok [] else .error .corrupt
  | b :: cs =>
    match h : item? (b :: cs) with
    | none => .error .corrupt
    | some (number, item, rest) =>
      have := item?_length h
      if openGroups.isEmpty ∧ number = 0 then .error .corrupt
      else match item with
      | .startGroup =>
        if depth ≤ openGroups.length then .error .corrupt
        else levelFrom depth handle (number :: openGroups) rest
      | .endGroup =>
        match openGroups with
        | [] => .error .corrupt
        | g :: gs => if g = number then levelFrom depth handle gs rest else .error .corrupt
      | item =>
        if openGroups.isEmpty then
          match handle number item with
          | .error e => .error e
          | .ok records => (levelFrom depth handle openGroups rest).map (records ++ ·)
        else levelFrom depth handle openGroups rest
termination_by bs.length
decreasing_by all_goals assumption

def decodeFrom {Name : Type} (layout : Layout Name) : (depth : Nat) → Name → Bytes →
    Except Fault Records
  | depth, name =>
    levelFrom depth (fun number item =>
      match item with
      | .varint n => .ok [(number, .varint n)]
      | .bytes body =>
        match layout.message? name number with
        | some inner =>
          match depth with
          | 0 => .error .tooDeep
          | depth + 1 =>
            (decodeFrom layout depth inner body).map fun rs => [(number, .message rs)]
        | none =>
          if layout.packed name number then
            match packed? body with
            | some ns => .ok (ns.map fun n => (number, .varint n))
            | none => .error .corrupt
          else .ok [(number, .bytes body)]
      | _ => .ok []) []

def decode {Name : Type} (layout : Layout Name) (name : Name) (bs : Bytes) :
    Except Fault Records :=
  decodeFrom layout depthLimit name bs

/-! ## Looking fields up -/

namespace Records

def ints (rs : Records) (number : Nat) : List Nat :=
  rs.filterMap fun
    | (n, .varint v) => if n = number then some v else none
    | _ => none

def bytes (rs : Records) (number : Nat) : List Bytes :=
  rs.filterMap fun
    | (n, .bytes bs) => if n = number then some bs else none
    | _ => none

def messages (rs : Records) (number : Nat) : List Records :=
  rs.filterMap fun
    | (n, .message inner) => if n = number then some inner else none
    | _ => none

/-- The last of several values of a field holds. -/
def int? (rs : Records) (number : Nat) : Option Nat :=
  (rs.ints number).getLast?

/-- Several messages under the number of a single one are one message. -/
def merged (rs : Records) (number : Nat) : Records :=
  (rs.messages number).flatten

def flag (rs : Records) (number : Nat) : Bool :=
  (rs.int? number).any (· ≠ 0)

/-- An integer cut to thirty-two bits, the highest of them the sign. -/
def int32 (n : Nat) : Int :=
  Int.bmod n halfWordSize

def int32? (rs : Records) (number : Nat) : Option Int :=
  (rs.int? number).map int32

end Records

end ServiceScaffold.Descriptor.Wire

import ServiceScaffold.Skeleton.Domain
import ServiceScaffold.Skeleton.Persistence

/-!
# Reading generated source

What a file declares is read off the lines that open a declaration: a type from its head, the
methods of a receiver from their heads, those of an interface from the block behind its head. The
readers look at the lines only, not at the service that the lines were made from.
-/
namespace ServiceScaffold.Skeleton
open Model

/-! ## Marks -/

/-- What stands between a front and a back, for a line that has both. -/
def enclosed? (front back line : String) : Option String :=
  if front.toList.isPrefixOf line.toList then
    (Text.dropSuffix? back.toList (line.toList.drop front.toList.length)).map String.ofList
  else none

theorem enclosed?_eq_some {front back line inner : String} :
    enclosed? front back line = some inner ↔ line = front ++ inner ++ back := by
  have hl : line = front ++ inner ++ back ↔
      line.toList = front.toList ++ (inner.toList ++ back.toList) := by
    rw [← String.toList_inj, String.toList_append, String.toList_append, List.append_assoc]
  rw [hl, enclosed?]
  split
  · next h =>
    obtain ⟨behind, hb⟩ := List.isPrefixOf_iff_prefix.1 h
    rw [← hb, List.drop_left, Option.map_eq_some_iff, List.append_cancel_left_eq]
    constructor
    · rintro ⟨cs, hs, rfl⟩
      rw [Text.dropSuffix?_eq_some.1 hs, String.toList_ofList]
    · intro he
      exact ⟨inner.toList, Text.dropSuffix?_eq_some.2 he, String.ofList_toList⟩
  · next h =>
    refine ⟨(nomatch ·), fun he => absurd (List.isPrefixOf_iff_prefix.2 ?_) h⟩
    exact ⟨_, he.symm⟩

@[simp] theorem enclosed?_self (front inner back : String) :
    enclosed? front back (front ++ inner ++ back) = some inner :=
  enclosed?_eq_some.2 rfl

theorem enclosed?_eq_none {front back line : String} (h : ¬front.toList <+: line.toList) :
    enclosed? front back line = none := by
  rw [enclosed?, if_neg fun hp => h (List.isPrefixOf_iff_prefix.1 hp)]

/-- None of the lines begins with a mark. -/
def Lines.Lacks (mark : String) (lines : Lines) : Prop :=
  ∀ line ∈ lines, ¬mark.toList <+: line.toList

theorem not_mem_of_lacks {mark line : String} {lines : Lines} (h : lines.Lacks mark)
    (hp : mark.toList <+: line.toList) : line ∉ lines :=
  fun hl => h line hl hp

section Lacks

variable {α : Type} {mark : String}

@[simp] theorem lacks_nil : Lines.Lacks mark [] :=
  nofun

@[simp] theorem lacks_cons {line : String} {lines : Lines} :
    Lines.Lacks mark (line :: lines) ↔
      ¬mark.toList <+: line.toList ∧ Lines.Lacks mark lines :=
  List.forall_mem_cons

@[simp] theorem lacks_append {lines lines' : Lines} :
    Lines.Lacks mark (lines ++ lines') ↔ Lines.Lacks mark lines ∧ Lines.Lacks mark lines' :=
  List.forall_mem_append

@[simp] theorem lacks_given {condition : Bool} {lines : Lines} :
    Lines.Lacks mark (given condition lines) ↔ (condition = true → Lines.Lacks mark lines) := by
  cases condition <;> simp [given]

theorem lacks_flatMap {f : α → Lines} (h : ∀ a, Lines.Lacks mark (f a)) (as : List α) :
    Lines.Lacks mark (as.flatMap f) := by
  intro line hl
  obtain ⟨a, _, ha⟩ := List.mem_flatMap.1 hl
  exact h a line ha

theorem lacks_map {f : α → String} (h : ∀ a, ¬mark.toList <+: (f a).toList) (as : List α) :
    Lines.Lacks mark (as.map f) := by
  intro line hl
  obtain ⟨a, _, rfl⟩ := List.mem_map.1 hl
  exact h a

end Lacks

/-! ## Types -/

def interfaceHead (name : String) : String :=
  "type " ++ name ++ " interface " ++ openBrace

theorem structHead_ne_interfaceHead (name name' : String) :
    structHead name ≠ interfaceHead name' := by
  intro h
  have hl := congrArg (fun s => s.toList.reverse.drop 2) h
  simp [interfaceHead, structHead, openBrace] at hl

/-- The name of the type whose declaration a line opens. -/
def declaredType? (line : String) : Option String :=
  (enclosed? "type " (" struct " ++ openBrace) line).or
    (enclosed? "type " (" interface " ++ openBrace) line)

def Lines.declaredTypes (lines : Lines) : List String :=
  lines.filterMap declaredType?

theorem structHead_eq (name : String) :
    structHead name = "type " ++ name ++ (" struct " ++ openBrace) :=
  String.append_assoc

@[simp] theorem declaredType?_structHead (name : String) :
    declaredType? (structHead name) = some name := by
  rw [declaredType?, structHead_eq, enclosed?_self, Option.some_or]

/-- The head of an interface opens no struct. -/
theorem enclosed?_interfaceHead (name : String) :
    enclosed? "type " (" struct " ++ openBrace) (interfaceHead name) = none := by
  rw [Option.eq_none_iff_forall_not_mem]
  intro inner he
  exact structHead_ne_interfaceHead inner name
    ((structHead_eq inner).trans (enclosed?_eq_some.1 he).symm)

@[simp] theorem declaredType?_interfaceHead (name : String) :
    declaredType? (interfaceHead name) = some name := by
  have h : interfaceHead name = "type " ++ name ++ (" interface " ++ openBrace) :=
    String.append_assoc
  rw [declaredType?, enclosed?_interfaceHead, Option.none_or, h, enclosed?_self]

theorem declaredTypes_append (lines lines' : Lines) :
    Lines.declaredTypes (lines ++ lines') = lines.declaredTypes ++ lines'.declaredTypes :=
  List.filterMap_append

theorem declaredTypes_of_lacks {lines : Lines} (h : lines.Lacks "type ") :
    lines.declaredTypes = [] := by
  refine List.filterMap_eq_nil_iff.2 fun line hl => ?_
  rw [declaredType?, enclosed?_eq_none (h line hl), enclosed?_eq_none (h line hl)]
  rfl

theorem declaredTypes_flatMap {α : Type} {f : α → Lines} {name : α → String}
    (h : ∀ a, (f a).declaredTypes = [name a]) (as : List α) :
    Lines.declaredTypes (as.flatMap f) = as.map name := by
  induction as with
  | nil => rfl
  | cons a as ih => rw [List.flatMap_cons, declaredTypes_append, h, ih]; rfl

/-- Below the head of a struct every line begins with a tab or is a closing brace. -/
theorem lacks_fieldLines {mark : String} {c : Char} (hm : mark.toList.head? = some c)
    (ht : c ≠ '\t') (hb : c ≠ '\x7d') (fields : List StructField) :
    Lines.Lacks mark (fields.map StructField.line ++ [closeBrace]) := by
  obtain ⟨cs, hcs⟩ := List.head?_eq_some_iff.1 hm
  refine lacks_append.2 ⟨lacks_map (fun f => ?_) fields, ?_⟩
  · simp [hcs, StructField.line, List.cons_prefix_cons, ht]
  · simp [hcs, closeBrace, List.cons_prefix_cons, hb]

theorem Struct.lines_eq (s : Struct) :
    s.lines = structHead s.name :: (s.fields.map StructField.line ++ [closeBrace]) :=
  rfl

/-- One declaration with its comment and its body. -/
theorem declaredTypes_declaration (before : Lines) {body : Lines} {head name : String}
    (hh : declaredType? head = some name) (hb : before.Lacks "type ")
    (hl : body.Lacks "type ") : Lines.declaredTypes (before ++ head :: body) = [name] := by
  rw [declaredTypes_append, declaredTypes_of_lacks hb, List.nil_append, Lines.declaredTypes,
    List.filterMap_cons, hh]
  exact congrArg (name :: ·) (declaredTypes_of_lacks hl)

theorem declaredTypes_struct {before : Lines} (hb : before.Lacks "type ") (s : Struct) :
    Lines.declaredTypes (before ++ s.lines) = [s.name] :=
  declaredTypes_declaration before (declaredType?_structHead s.name) hb
    (lacks_fieldLines rfl (by decide) (by decide) s.fields)

/-! ## Methods -/

/-- The methods of a receiver: the signature in each of their heads, with the first line of the
body. -/
def Lines.methodsOf (receiver : String) : Lines → List (String × String)
  | head :: body :: rest =>
    match enclosed? ("func (" ++ receiver ++ ") ") (" " ++ openBrace) head with
    | some signature => (signature, body) :: Lines.methodsOf receiver (body :: rest)
    | none => Lines.methodsOf receiver (body :: rest)
  | _ => []

theorem methodsOf_append_of_lacks {lines : Lines} (h : lines.Lacks "func (")
    (receiver : String) (rest : Lines) :
    Lines.methodsOf receiver (lines ++ rest) = Lines.methodsOf receiver rest := by
  induction lines with
  | nil => rfl
  | cons line lines ih =>
    rw [lacks_cons] at h
    have hn : enclosed? ("func (" ++ receiver ++ ") ") (" " ++ openBrace) line = none := by
      refine enclosed?_eq_none fun hp => h.1 (List.IsPrefix.trans ?_ hp)
      simp
    rw [List.cons_append, ← ih h.2]
    cases hl : lines ++ rest with
    | nil => rfl
    | cons body tail => rw [Lines.methodsOf, hn]

/-- A method and what follows its head, up to the next one. -/
theorem methodsOf_methodHead {body : Lines} (hb : body ≠ []) (h : body.Lacks "func (")
    (receiver : String) (s : Signature) (rest : Lines) :
    Lines.methodsOf receiver (methodHead receiver s :: (body ++ rest)) =
      (s.text, body.headD "") :: Lines.methodsOf receiver rest := by
  have hs : methodHead receiver s =
      "func (" ++ receiver ++ ") " ++ s.text ++ (" " ++ openBrace) := by
    simp only [methodHead, String.append_assoc]
  obtain ⟨first, others, rfl⟩ := List.exists_cons_of_ne_nil hb
  rw [List.cons_append, Lines.methodsOf, hs, enclosed?_self]
  simp only
  rw [← List.cons_append, methodsOf_append_of_lacks h]
  rfl

/-- The methods of a file that has a method for each item, behind other lines. -/
theorem methodsOf_flatMap {α : Type} {f before body : α → Lines} {signature : α → Signature}
    {receiver : String} (hf : ∀ a, f a = before a ++ methodHead receiver (signature a) :: body a)
    (hb : ∀ a, (before a).Lacks "func (") (hn : ∀ a, body a ≠ [])
    (hl : ∀ a, (body a).Lacks "func (") (as : List α) :
    Lines.methodsOf receiver (as.flatMap f) =
      as.map fun a => ((signature a).text, (body a).headD "") := by
  induction as with
  | nil => rfl
  | cons a as ih =>
    rw [List.flatMap_cons, hf, List.append_assoc, methodsOf_append_of_lacks (hb a),
      List.cons_append, methodsOf_methodHead (hn a) (hl a), ih, List.map_cons]

/-! ## Interfaces -/

/-- The lines behind a head, up to the closing brace. -/
def Lines.block (head : String) (lines : Lines) : Lines :=
  ((lines.dropWhile (· ≠ head)).drop 1).takeWhile (· ≠ closeBrace)

/-- Every second line. -/
def Lines.seconds : Lines → Lines
  | _ :: line :: rest => line :: Lines.seconds rest
  | _ => []

/-- The methods of an interface, each of which stands behind its comment. -/
def Lines.interfaceMethods (name : String) (lines : Lines) : Lines :=
  Lines.seconds (lines.block (interfaceHead name))

theorem block_append {before inner : Lines} {head : String} (rest : Lines)
    (hb : head ∉ before) (hi : closeBrace ∉ inner) :
    Lines.block head (before ++ head :: (inner ++ closeBrace :: rest)) = inner := by
  have hbefore : ∀ line ∈ before, decide (line ≠ head) = true := by
    intro line hl
    simpa using fun e : line = head => hb (e ▸ hl)
  have hinner : ∀ line ∈ inner, decide (line ≠ closeBrace) = true := by
    intro line hl
    simpa using fun e : line = closeBrace => hi (e ▸ hl)
  rw [Lines.block, List.dropWhile_append_of_pos hbefore, List.dropWhile_cons_of_neg (by simp),
    List.drop_one, List.tail_cons, List.takeWhile_append_of_pos hinner,
    List.takeWhile_cons_of_neg (by simp), List.append_nil]

theorem seconds_flatMap {α : Type} {first second : α → String} (as : List α) :
    Lines.seconds (as.flatMap fun a => [first a, second a]) = as.map second := by
  induction as with
  | nil => rfl
  | cons a as ih => exact congrArg (second a :: ·) ih

end ServiceScaffold.Skeleton

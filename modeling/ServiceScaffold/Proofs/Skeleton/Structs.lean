import ServiceScaffold.Proofs.Skeleton.DeclaredTypes

/-!
# Reading structs back

A struct is read from the line that opens it up to the next closing brace (`Lines.structs?`), and a
field from the first two parts of its line (`fieldOf?`). `structsIn` puts the two together for a text:
it gives nothing where a struct is not closed or holds a line that is no field, an empty one for
instance. The readers know nothing of what a text was made from.
-/
namespace ServiceScaffold.Skeleton
open Text Model

/-! ## Readers -/

/-- The lines of a text; what follows the last line feed is one of them. -/
def linesIn (text : String) : Lines :=
  (segments '\n' text.toList).map String.ofList

/-- The name of the struct that a line opens. -/
def structName? (line : String) : Option String :=
  enclosed? "type " (" struct " ++ openBrace) line

/-- The lines in front of the next closing brace, if there is one. -/
def Lines.body? : Lines → Option Lines
  | [] => none
  | line :: rest =>
    if line = closeBrace then some [] else (Lines.body? rest).map (line :: ·)

/-- All structs by their names, each with the lines of its body. -/
def Lines.structs? : Lines → Option (List (String × Lines))
  | [] => some []
  | line :: rest =>
    match structName? line with
    | none => Lines.structs? rest
    | some name =>
      (Lines.body? rest).bind fun body => (Lines.structs? rest).map ((name, body) :: ·)

/-- The name and the type of a field: behind a tab, the first two of the parts that spaces set
apart. -/
def fieldOf? (line : String) : Option (String × String) :=
  match segments ' ' line.toList with
  | ('\t' :: name) :: type :: _ => some (String.ofList name, String.ofList type)
  | _ => none

/-- The fields of a body, one for each of its lines. -/
def fieldsOf? (body : Lines) : Option (List (String × String)) :=
  body.mapM fieldOf?

/-- The structs of a text by their names, each with its fields. -/
def structsIn (text : String) : Option (List (String × List (String × String))) :=
  (linesIn text).structs?.bind fun structs =>
    structs.mapM fun (name, body) => (fieldsOf? body).map (name, ·)

/-! ## Structs among lines -/

/-- None of the lines opens a struct. -/
def Lines.OpensNone (lines : Lines) : Prop :=
  ∀ line ∈ lines, structName? line = none

/-- Every line begins with a tab. -/
def Lines.Tabbed (lines : Lines) : Prop :=
  ∀ line ∈ lines, line.toList.head? = some '\t'

theorem Lines.Lacks.opensNone {lines : Lines} (h : lines.Lacks "type ") : lines.OpensNone :=
  fun line hl => enclosed?_eq_none (h line hl)

theorem opensNone_append {lines lines' : Lines} (h : lines.OpensNone) (h' : lines'.OpensNone) :
    Lines.OpensNone (lines ++ lines') :=
  List.forall_mem_append.2 ⟨h, h'⟩

theorem structName?_structHead (name : String) : structName? (structHead name) = some name := by
  rw [structName?, structHead_eq, enclosed?_self]

theorem structs?_append {lines : Lines} (h : lines.OpensNone) (rest : Lines) :
    Lines.structs? (lines ++ rest) = Lines.structs? rest := by
  induction lines with
  | nil => rfl
  | cons line lines ih =>
    obtain ⟨hline, hlines⟩ := List.forall_mem_cons.1 h
    rw [List.cons_append, Lines.structs?, hline]
    exact ih hlines

theorem tabbed_fieldLines (fields : List StructField) :
    Lines.Tabbed (fields.map StructField.line) := by
  intro line hl
  obtain ⟨f, _, rfl⟩ := List.mem_map.1 hl
  simp [StructField.line]

theorem opensNone_of_tabbed {body : Lines} (h : body.Tabbed) : body.OpensNone := by
  intro line hl
  refine enclosed?_eq_none ?_
  obtain ⟨cs, hcs⟩ := List.head?_eq_some_iff.1 (h line hl)
  rw [hcs]
  simp [List.cons_prefix_cons]

theorem body?_tabbed {body : Lines} (h : body.Tabbed) (rest : Lines) :
    Lines.body? (body ++ closeBrace :: rest) = some body := by
  induction body with
  | nil => simp [Lines.body?]
  | cons line body ih =>
    obtain ⟨hline, hbody⟩ := List.forall_mem_cons.1 h
    have hne : line ≠ closeBrace := by
      rintro rfl
      exact absurd hline (by decide)
    rw [List.cons_append, Lines.body?, if_neg hne, ih hbody, Option.map_some]

/-- A struct and what follows it. -/
theorem structs?_struct {body : Lines} (h : body.Tabbed) (name : String) (rest : Lines) :
    Lines.structs? (structHead name :: (body ++ closeBrace :: rest)) =
      (Lines.structs? rest).map ((name, body) :: ·) := by
  have close : Lines.OpensNone [closeBrace] :=
    Lines.Lacks.opensNone (by simp [closeBrace])
  have skip : Lines.structs? (body ++ closeBrace :: rest) = Lines.structs? rest := by
    rw [structs?_append (opensNone_of_tabbed h)]
    exact structs?_append close rest
  rw [Lines.structs?, structName?_structHead]
  simp only [body?_tabbed h, skip, Option.bind_some]

/-- The structs of lines that have one for each item, behind a comment and in front of more. -/
theorem structs?_flatMap {α : Type} {f before after : α → Lines} {struct : α → Struct}
    (hf : ∀ a, f a = before a ++ (struct a).lines ++ after a) (hb : ∀ a, (before a).OpensNone)
    (ha : ∀ a, (after a).OpensNone) (as : List α) (rest : Lines) :
    Lines.structs? (as.flatMap f ++ rest) = (Lines.structs? rest).map
      (as.map (fun a => ((struct a).name, (struct a).fields.map StructField.line)) ++ ·) := by
  induction as with
  | nil => simp
  | cons a as ih =>
    have layout : (a :: as).flatMap f ++ rest = before a ++ (structHead (struct a).name ::
        ((struct a).fields.map StructField.line ++ closeBrace ::
          (after a ++ (as.flatMap f ++ rest)))) := by
      rw [List.flatMap_cons, hf, Struct.lines_eq]
      simp
    rw [layout, structs?_append (hb a), structs?_struct (tabbed_fieldLines _),
      structs?_append (ha a), ih, Option.map_map]
    rfl

/-! ## Fields -/

theorem mapM_map_some {α β γ : Type} {f : α → β} {g : β → Option γ} {h : α → γ} {as : List α}
    (hg : ∀ a ∈ as, g (f a) = some (h a)) : (as.map f).mapM g = some (as.map h) := by
  induction as with
  | nil => rfl
  | cons a as ih =>
    obtain ⟨ha, has⟩ := List.forall_mem_cons.1 hg
    simp [ha, ih has]

theorem fieldOf?_line {f : StructField} (hn : ' ' ∉ f.name.toList) (ht : ' ' ∉ f.type.toList) :
    fieldOf? f.line = some (f.name, f.type) := by
  obtain ⟨more, hmore, hline⟩ : ∃ more : List Char, (more = [] ∨ ∃ cs, more = ' ' :: cs) ∧
      f.line.toList = '\t' :: f.name.toList ++ ' ' :: (f.type.toList ++ more) := by
    refine ⟨(behind " " f.tag ++ behind " // " f.comment).toList, ?_, ?_⟩
    · cases f.tag <;> cases f.comment <;> simp [behind]
    · simp [StructField.line]
  have hname : segments ' ' ('\t' :: f.name.toList) = ['\t' :: f.name.toList] :=
    segments_of_not_mem (by simp [hn])
  obtain ⟨parts, htype⟩ : ∃ parts, segments ' ' (f.type.toList ++ more) = f.type.toList :: parts := by
    rcases hmore with rfl | ⟨cs, rfl⟩
    · exact ⟨[], by rw [List.append_nil, segments_of_not_mem ht]⟩
    · exact ⟨_, by rw [segments_append, segments_of_not_mem ht]; rfl⟩
  rw [fieldOf?, hline, segments_append, hname, htype]
  simp

/-! ## Lines of a text -/

/-- No line feed stands in the lines. -/
def Lines.Single (lines : Lines) : Prop :=
  ∀ line ∈ lines, '\n' ∉ line.toList

section Single

variable {lines lines' : Lines}

@[simp] theorem single_nil : Lines.Single [] :=
  List.forall_mem_nil _

@[simp] theorem single_cons {line : String} :
    Lines.Single (line :: lines) ↔ '\n' ∉ line.toList ∧ lines.Single :=
  List.forall_mem_cons

@[simp] theorem single_append :
    Lines.Single (lines ++ lines') ↔ lines.Single ∧ lines'.Single :=
  List.forall_mem_append

theorem single_flatMap {α : Type} {f : α → Lines} {as : List α} (h : ∀ a ∈ as, (f a).Single) :
    Lines.Single (as.flatMap f) := by
  intro line hl
  obtain ⟨a, ha, hl⟩ := List.mem_flatMap.1 hl
  exact h a ha line hl

end Single

theorem linesIn_text {lines : Lines} (h : lines.Single) : linesIn lines.text = lines ++ [""] := by
  induction lines with
  | nil => rfl
  | cons line lines ih =>
    obtain ⟨hline, hlines⟩ := single_cons.1 h
    have ht : (Lines.text (line :: lines)).toList =
        line.toList ++ '\n' :: (Lines.text lines).toList := by
      simp [Lines.text]
    rw [linesIn] at ih ⊢
    rw [ht, segments_append, segments_of_not_mem hline, List.map_append, ih hlines]
    simp

/-! ## Texts -/

/-- A struct by its name, with its lines. -/
def Struct.block (s : Struct) : String × Lines :=
  (s.name, s.fields.map StructField.line)

/-- A struct by its name, with the names and types of its fields. -/
def Struct.shape (s : Struct) : String × List (String × String) :=
  (s.name, s.fields.map fun f => (f.name, f.type))

/-- Structs are read from a text when no line feed stands in its lines and no space in the name or
the type of a field. -/
theorem structsIn_text {lines : Lines} {structs : List Struct} (single : lines.Single)
    (blocks : Lines.structs? (lines ++ [""]) = some (structs.map Struct.block))
    (fields : ∀ s ∈ structs, ∀ f ∈ s.fields, ' ' ∉ f.name.toList ∧ ' ' ∉ f.type.toList) :
    structsIn lines.text = some (structs.map Struct.shape) := by
  rw [structsIn, linesIn_text single, blocks, Option.bind_some]
  refine mapM_map_some fun s hs => ?_
  have body : fieldsOf? (s.fields.map StructField.line) =
      some (s.fields.map fun f => (f.name, f.type)) :=
    mapM_map_some fun f hf => fieldOf?_line (fields s hs f hf).1 (fields s hs f hf).2
  simp only [Struct.block, body, Option.map_some, Struct.shape]

/-! ## The files of a schema -/

section Domain
open Domain

theorem structs?_domainModels (s : Service) (packageName : String) (rest : Lines) :
    Lines.structs? (modelFile s packageName ++ rest) =
      (Lines.structs? rest).map (s.distinctMessages.map (Struct.block ∘ modelStruct) ++ ·) := by
  have front : Lines.Lacks "type "
      [clause packageName, "", "// Domain models generated from proto messages"] := by
    simp [clause]
  have comment (m : Message) : Lines.Lacks "type "
      ["", "// " ++ m.name ++ " is the domain model for " ++ m.name] := by
    simp
  rw [modelFile, List.append_assoc, structs?_append front.opensNone]
  exact structs?_flatMap (fun m => (List.append_nil _).symm) (fun m => (comment m).opensNone)
    (fun _ => lacks_nil.opensNone) s.distinctMessages rest

/-- The body of the struct that holds the repository of a use case. -/
def useCaseBody (service : String) (logged : Bool) : Lines :=
  ("\trepo " ++ interfaceName service) :: given logged ["\tlog  *log.Helper"]

/-- The constructor's lines: the struct of the use case behind its comment, and the function. -/
theorem constructorLines_eq (service : String) (logged : Bool) :
    ∃ before after : Lines, before.Lacks "type " ∧ after.Lacks "type " ∧
      constructorLines service logged = before ++
        structHead (useCaseName service) :: (useCaseBody service logged ++ closeBrace :: after) := by
  refine ⟨(constructorLines service logged).take 2,
    (constructorLines service logged).drop (4 + (useCaseBody service logged).length), ?_, ?_, ?_⟩
  · simp [constructorLines]
  · cases logged <;> simp [constructorLines, useCaseBody, given, closeBrace]
  · cases logged <;> rfl

theorem opensNone_interfaceLines (service : String) (methods : List Method) :
    (interfaceLines service methods).OpensNone := by
  have front : Lines.Lacks "type "
      ["", "// " ++ interfaceName service ++ " is implemented by the data layer."] := by
    simp
  have head : Lines.OpensNone [interfaceHead (interfaceName service)] :=
    List.forall_mem_singleton.2 (enclosed?_interfaceHead _)
  have layout : interfaceLines service methods =
      ["", "// " ++ interfaceName service ++ " is implemented by the data layer."]
        ++ ([interfaceHead (interfaceName service)]
          ++ (methods.flatMap interfaceMethod ++ [closeBrace])) := rfl
  rw [layout]
  exact opensNone_append front.opensNone
    (opensNone_append head (lacks_interfaceBody methods).opensNone)

theorem structs?_useCaseFile (s : Service) (packageName : String) (logged : Bool) (rest : Lines) :
    Lines.structs? (useCaseFile s packageName logged ++ rest) = (Lines.structs? rest).map
      ((entities s).map Struct.block ++ [(useCaseName s.name, useCaseBody s.name logged)] ++ ·) := by
  obtain ⟨before, after, hbefore, hafter, hconstructor⟩ := constructorLines_eq s.name logged
  have comment (e : Struct) : Lines.Lacks "type "
      ["", "// " ++ e.name ++ " is the domain entity behind " ++ e.name ++ " requests."] := by
    simp
  have body : Lines.Tabbed (useCaseBody s.name logged) := by
    cases logged <;> simp [Lines.Tabbed, useCaseBody, given]
  have methods := (lacks_useCaseMethods s.name logged s.methods).opensNone
  have layout : useCaseFile s packageName logged ++ rest =
      [clause packageName, ""] ++ importLines logged ++ ((entities s).flatMap entityLines ++
        (interfaceLines s.name s.methods ++ (before ++
          structHead (useCaseName s.name) :: (useCaseBody s.name logged ++ closeBrace ::
            (after ++ (s.methods.flatMap (useCaseMethod s.name logged) ++ rest)))))) := by
    simp only [useCaseFile, hconstructor, List.append_assoc, List.cons_append]
  have entity (e : Struct) : entityLines e =
      ["", "// " ++ e.name ++ " is the domain entity behind " ++ e.name ++ " requests."]
        ++ e.lines ++ [] :=
    (List.append_nil _).symm
  rw [layout, structs?_append (lacks_front packageName logged).opensNone,
    structs?_flatMap entity (fun e => (comment e).opensNone) (fun _ => lacks_nil.opensNone)
      (entities s),
    structs?_append (opensNone_interfaceLines s.name s.methods), structs?_append hbefore.opensNone,
    structs?_struct body, structs?_append hafter.opensNone, structs?_append methods, Option.map_map]
  simp only [List.append_assoc, List.singleton_append]
  rfl

end Domain

section Persistence
open Persistence

theorem structs?_persistenceModels (s : Service) (packageName : String) (rest : Lines) :
    Lines.structs? (modelFile s packageName ++ rest) =
      (Lines.structs? rest).map (s.distinctMessages.map (Struct.block ∘ modelStruct) ++ ·) := by
  have front : Lines.Lacks "type " [clause packageName, "", "import (", "\t\"time\"", ")", "",
      "// Data models for database operations"] := by
    simp [clause]
  have comment (m : Message) : Lines.Lacks "type "
      ["", "// " ++ m.name ++ " is the data model for " ++ m.name] := by
    simp
  have table (m : Message) : Lines.Lacks "type "
      ["", "// TableName returns the table name for " ++ m.name,
       "func (" ++ m.name ++ ") TableName() string " ++ openBrace,
       "\treturn \"" ++ tableName m ++ "\"", closeBrace] := by
    simp [closeBrace]
  rw [modelFile, List.append_assoc, structs?_append front.opensNone]
  exact structs?_flatMap (fun m => rfl) (fun m => (comment m).opensNone)
    (fun m => (table m).opensNone) s.distinctMessages rest

end Persistence

end ServiceScaffold.Skeleton

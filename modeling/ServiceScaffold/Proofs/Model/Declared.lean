import ServiceScaffold.Extraction
import ServiceScaffold.Proofs.Schema.Placement

/-!
# The model that a file declares

A draft is filled by events and knows only the message and the service opened last. Here the
model is read off the declarations themselves, with no events and nothing opened:
`declaredService`. Both agree on every well placed file (`ofDeclarations_services`). The invariant
is `Draft.extend`: what a draft becomes by all the events of further declarations.
-/
namespace ServiceScaffold.Model
open Schema (MessageElement directFields)

/-! ## What a file declares -/

/-- The last segment of a dotted name. -/
def lastSegment (name : String) : String :=
  String.ofList ((Text.segments '.' name.toList).getLast?.getD [])

def declaredField (f : Schema.Field) : Field :=
  ⟨f.name, (if f.repeated then "[]" else "") ++ lastSegment f.typeName, f.number⟩

/-- A message with the fields that stand directly in it. -/
def declaredMessage (name : String) (elements : List MessageElement) : Message :=
  ⟨name, (directFields elements).map declaredField⟩

mutual

def elementMessages : MessageElement → List Message
  | .message name elements => declaredMessage name elements :: nestedDeclared elements
  | _ => []

/-- The messages among the elements, each before those nested in it. -/
def nestedDeclared : List MessageElement → List Message
  | [] => []
  | e :: es => elementMessages e ++ nestedDeclared es

end

def declaredMessages (m : Schema.Message) : List Message :=
  declaredMessage m.name m.elements :: nestedDeclared m.elements

def packageNames (f : Schema.File) : List String :=
  f.filterMap fun
    | .statement (.package name) => some name
    | _ => none

def importPaths (f : Schema.File) : List String :=
  f.filterMap fun
    | .statement (.importing i) => some i.path
    | _ => none

/-- The values of the settings of the file that name its Go package. -/
def goPackageValues (f : Schema.File) : List String :=
  f.filterMap fun
    | .setting s => if s.name = "go_package" then some s.value else none
    | _ => none

/-- What stands before the first semicolon, without the blanks around it. -/
def goImportPath (value : String) : String :=
  String.ofList (Text.trim ((Text.segments ';' value.toList).headD []))

/-- The model of one service of a file. All but the name and the methods is that of the file. -/
def declaredService (f : Schema.File) (source : String) (s : Schema.Service) : Service :=
  { name := Naming.declared s.name
    protoPackage := (packageNames f).getLast?.getD ""
    goPackage := ((goPackageValues f).getLast?.map goImportPath).getD ""
    methods := s.rpcs.map .ofRpc
    messages := f.messages.flatMap declaredMessages
    importPaths := importPaths f
    sourceFile := source }

/-- Looking a field up finds the first of its name among those that stand directly in the message,
never one of a oneof, of a map or of a message nested in it. -/
theorem field?_declaredMessage (name field : String) (elements : List MessageElement) :
    (declaredMessage name elements).field? field =
      ((directFields elements).find? (·.name = field)).map declaredField := by
  rw [Message.field?, declaredMessage, List.find?_map]
  rfl

/-! ## Segments -/

theorem headD_segments (sep : Char) (s : List Char) :
    (Text.segments sep s).headD [] = Text.beforeFirst sep s := by
  induction s with
  | nil => rfl
  | cons c cs ih =>
    by_cases h : c = sep
    · simp [Text.segments, Text.beforeFirst, h]
    · have hb : Text.beforeFirst sep (c :: cs) = c :: Text.beforeFirst sep cs := by
        simp [Text.beforeFirst, h]
      rw [Text.segments, if_neg h, hb, ← ih]
      split <;> simp_all

theorem length_segments (sep : Char) (s : List Char) :
    (Text.segments sep s).length = s.count sep + 1 := by
  induction s with
  | nil => rfl
  | cons c cs ih =>
    rw [Text.segments]
    split
    · next h => simp [ih, h]
    · next h =>
      rw [List.count_cons_of_ne h]
      split <;> simp_all

/-- Where a separator follows, the first character is in no last segment. -/
theorem getLast_segments_cons {sep c : Char} {cs : List Char} (h : sep ∈ cs) :
    (Text.segments sep (c :: cs)).getLast? = (Text.segments sep cs).getLast? := by
  have hl : 2 ≤ (Text.segments sep cs).length := by
    have := List.count_pos_iff.2 h
    rw [length_segments]
    omega
  obtain ⟨x, rest, hs⟩ := List.exists_cons_of_length_pos (Nat.lt_of_lt_of_le Nat.zero_lt_two hl)
  rw [hs, List.length_cons] at hl
  obtain ⟨y, ys, rfl⟩ := List.exists_cons_of_length_pos (Nat.le_of_succ_le_succ hl)
  rw [Text.segments, hs]
  split <;> rfl

theorem getLast_segments (sep : Char) (s : List Char) :
    (Text.segments sep s).getLast?.getD [] = Text.afterLast sep s := by
  have whole : ∀ {t : List Char}, sep ∉ t → ∀ c ∈ t.reverse, decide (c ≠ sep) = true := by
    intro t ht c hc
    simpa using fun e : c = sep => ht (e ▸ List.mem_reverse.1 hc)
  by_cases h : sep ∈ s
  · -- the text is cut at its last separator
    obtain ⟨behind, front, hs, hb⟩ := List.eq_append_cons_of_mem (List.mem_reverse.2 h)
    have hb' : sep ∉ behind.reverse := fun e => hb (List.mem_reverse.1 e)
    obtain rfl : s = front.reverse ++ sep :: behind.reverse := by
      simpa using congrArg List.reverse hs
    have hl : (Text.segments sep (front.reverse ++ sep :: behind.reverse)).getLast?
        = some behind.reverse := by
      induction front.reverse with
      | nil => simp [Text.segments, Text.segments_of_not_mem hb']
      | cons c cs ih => rw [List.cons_append, getLast_segments_cons (by simp), ih]
    rw [hl, Text.afterLast, List.reverse_append, List.reverse_cons, List.append_assoc,
      List.takeWhile_append_of_pos (whole hb')]
    simp
  · have hw : s.reverse.takeWhile (fun c => decide (c ≠ sep)) = s.reverse := by
      rw [← List.append_nil s.reverse, List.takeWhile_append_of_pos (whole h), List.takeWhile_nil]
    rw [Text.segments_of_not_mem h, Text.afterLast, hw, List.reverse_reverse]
    rfl

theorem lastSegment_eq (name : String) : lastSegment name = Naming.bare name := by
  rw [lastSegment, Naming.bare, getLast_segments]

theorem declaredField_eq (f : Schema.Field) : declaredField f = Field.ofSchema f := by
  unfold declaredField Field.ofSchema fieldType
  rw [lastSegment_eq]
  split
  · rfl
  · simp

theorem goImportPath_eq (value : String) : goImportPath value = goPackagePath value := by
  unfold goImportPath goPackagePath
  rw [headD_segments]

/-! ## What the events of a file make of a draft -/

namespace Draft

/-- The draft with all that the declarations of a file add to it. -/
def extend (d : Draft) (f : Schema.File) : Draft :=
  { protoPackage := (packageNames f).getLast?.getD d.protoPackage
    goPackage := ((goPackageValues f).getLast?.map goImportPath).getD d.goPackage
    imports := d.imports ++ importPaths f
    messages := (f.messages.flatMap declaredMessages).reverse ++ d.messages
    services := (f.services.map fun s =>
      (Naming.declared s.name, (s.rpcs.map Method.ofRpc).reverse)).reverse ++ d.services
    warnings := d.warnings ++ f.services.flatMap fun s => s.rpcs.flatMap rpcWarnings }

theorem extend_nil (d : Draft) : d.extend [] = d := by
  simp [extend, packageNames, goPackageValues, importPaths, Schema.File.messages,
    Schema.File.services]

theorem extend_cons (d : Draft) (c : Schema.Declaration) (f : Schema.File) :
    (d.extend [c]).extend f = d.extend (c :: f) := by
  simp only [extend, packageNames, goPackageValues, importPaths, Schema.File.messages,
    Schema.File.services, List.filterMap_cons, List.filterMap_nil]
  cases c with
  | statement s => cases s <;> simp [List.getLast?_cons]
  | setting s =>
    by_cases h : s.name = "go_package" <;>
      simp [h, List.getLast?_cons, Option.getD_map, -List.getLast?_filterMap]
  | message m => simp
  | service s => simp

theorem foldl_step_oneofField (d : Draft) (fs : List Schema.Field) :
    (fs.map Schema.Event.oneofField).foldl step d = d := by
  induction fs with
  | nil => rfl
  | cons f fs ih => exact ih

/-- The elements of the message opened last add its own fields to it and nothing else. -/
theorem foldl_step_ownEvents {es : List MessageElement} (h : Schema.wellPlaced es = true)
    (d : Draft) {m : Message} {ms : List Message} (hd : d.messages = m :: ms) :
    (es.flatMap MessageElement.ownEvents).foldl step d =
      { d with messages :=
          { m with fields := m.fields ++ (directFields es).map declaredField } :: ms } := by
  induction es generalizing d m with
  | nil =>
    cases d
    simp_all [directFields]
  | cons e es ih =>
    simp only [Schema.wellPlaced, Bool.and_eq_true] at h
    rw [List.flatMap_cons, List.foldl_append]
    -- every element but a field leaves the draft alone
    have skip (hf : directFields (e :: es) = directFields es)
        (hs : e.ownEvents.foldl step d = d) :
        (es.flatMap MessageElement.ownEvents).foldl step (e.ownEvents.foldl step d) =
          { d with messages :=
              { m with fields := m.fields ++ (directFields (e :: es)).map declaredField } :: ms } := by
      rw [hs, hf, ih h.2 d hd]
    cases e with
    | statement s =>
      cases s with
      | field f =>
        have hm : (step d (.statement (.field f))).messages =
            { m with fields := m.fields ++ [declaredField f] } :: ms := by
          simp [step, hd, addField, declaredField_eq]
        rw [show directFields (.statement (.field f) :: es) = f :: directFields es from rfl,
          show MessageElement.ownEvents (.statement (.field f)) = [.statement (.field f)] from rfl,
          List.foldl_cons, List.foldl_nil, ih h.2 _ hm]
        simp [step]
      | dialect | package | importing => simp [Schema.Statement.standsInMessage] at h
      | _ => exact skip rfl rfl
    | oneof o => exact skip rfl (foldl_step_oneofField d o.fields)
    | setting s => exact skip rfl rfl
    | message name elements => exact skip rfl rfl

/-- A message that opens adds itself and the messages nested in it, the newest in front. -/
theorem foldl_step_message (d : Draft) (name : String) {es : List MessageElement}
    (h : Schema.wellPlaced es = true) :
    (es.flatMap MessageElement.ownEvents).foldl step (step d (.message name)) =
      { d with messages := declaredMessage name es :: d.messages } := by
  rw [foldl_step_ownEvents h (step d (.message name)) rfl]
  simp [step, declaredMessage]

theorem foldl_step_nestedEvents {es : List MessageElement} (h : Schema.wellPlaced es = true)
    (d : Draft) : (Schema.nestedEvents es).foldl step d =
      { d with messages := (nestedDeclared es).reverse ++ d.messages } := by
  fun_induction Schema.nestedEvents es generalizing d with
  | case1 => simp [nestedDeclared]
  | case2 name elements rest ihInner ihRest =>
    simp only [Schema.wellPlaced, MessageElement.wellPlaced, Bool.and_eq_true] at h
    rw [List.foldl_append, List.foldl_append, List.foldl_cons, foldl_step_message d name h.1,
      ihInner h.1, ihRest h.2]
    simp [nestedDeclared, elementMessages]
  | case3 e rest hne ih =>
    simp only [Schema.wellPlaced, Bool.and_eq_true] at h
    rw [ih h.2]
    cases e with
    | message name elements => exact absurd rfl (hne name elements)
    | _ => rfl

theorem foldl_step_rpcs (d : Draft) (rs : List Schema.Rpc) {name : String}
    {methods : List Method} {older : List (String × List Method)}
    (hd : d.services = (name, methods) :: older) :
    (rs.map Schema.Event.rpc).foldl step d =
      { d with services := (name, (rs.map Method.ofRpc).reverse ++ methods) :: older
               warnings := d.warnings ++ rs.flatMap rpcWarnings } := by
  induction rs generalizing d methods with
  | nil =>
    cases d
    simp_all
  | cons r rs ih =>
    have hs : step d (.rpc r) =
        { d with services := (name, .ofRpc r :: methods) :: older
                 warnings := d.warnings ++ rpcWarnings r } := by
      simp [step, hd]
    rw [List.map_cons, List.foldl_cons, hs, ih _ rfl]
    simp

/-- One declaration. -/
theorem foldl_step_declaration {c : Schema.Declaration} (h : c.wellPlaced = true) (d : Draft) :
    c.events.foldl step d = d.extend [c] := by
  cases c with
  | statement s =>
    cases s with
    | field | mapField | group | reserved | extensions => simp [Schema.Statement.standsInFile] at h
    | _ => simp [Schema.Declaration.events, step, extend, packageNames, goPackageValues,
        importPaths, Schema.File.messages, Schema.File.services]
  | setting s =>
    by_cases hs : s.name = "go_package" <;>
      simp [Schema.Declaration.events, step, extend, packageNames, goPackageValues, importPaths,
        Schema.File.messages, Schema.File.services, goPackageSetting, hs, goImportPath_eq]
  | message m =>
    have h : Schema.wellPlaced m.elements = true := h
    rw [Schema.Declaration.events, Schema.Message.events, List.foldl_append, List.foldl_cons,
      foldl_step_message d m.name h, foldl_step_nestedEvents h]
    simp [extend, packageNames, goPackageValues, importPaths, Schema.File.messages,
      Schema.File.services, declaredMessages]
  | service s =>
    rw [Schema.Declaration.events, Schema.Service.events, List.foldl_cons,
      foldl_step_rpcs _ s.rpcs rfl]
    simp [step, extend, packageNames, goPackageValues, importPaths, Schema.File.messages,
      Schema.File.services]

/-- All events of a file. -/
theorem foldl_step_events {f : Schema.File} (h : f.WellPlaced) (d : Draft) :
    f.events.foldl step d = d.extend f := by
  induction f generalizing d with
  | nil => exact (extend_nil d).symm
  | cons c f ih =>
    have hc : c.wellPlaced = true := h c List.mem_cons_self
    have hf : Schema.File.WellPlaced f := fun e he => h e (List.mem_cons_of_mem c he)
    rw [Schema.File.events, List.flatMap_cons, List.foldl_append, foldl_step_declaration hc]
    exact (ih hf (d.extend [c])).trans (extend_cons d c f)

theorem ofEvents_eq_extend {f : Schema.File} (h : f.WellPlaced) :
    ofEvents f.events = empty.extend f :=
  foldl_step_events h empty

theorem toServices_extend (f : Schema.File) (source : String) :
    (empty.extend f).toServices source = f.services.map (declaredService f source) := by
  simp [toServices, extend, empty, declaredService]

end Draft

/-! ## Services -/

theorem ofDeclarations_eq {f : Schema.File} (h : f.WellPlaced) (source : String) :
    Extraction.ofDeclarations f source =
      if f.services = [] then .error (.noService source)
      else .ok ⟨f.services.map (declaredService f source),
        f.services.flatMap fun s => s.rpcs.flatMap rpcWarnings, source⟩ := by
  unfold Extraction.ofDeclarations
  rw [Draft.ofEvents_eq_extend h]
  simp only [Draft.toServices_extend]
  cases hs : f.services with
  | nil => rfl
  | cons s ss => simp [Draft.extend, Draft.empty, hs]

theorem services_of_ofDeclarations {f : Schema.File} (hp : f.WellPlaced) {source : String}
    {e : Extraction} (h : Extraction.ofDeclarations f source = .ok e) :
    e.services = f.services.map (declaredService f source) := by
  rw [ofDeclarations_eq hp] at h
  split at h
  · cases h
  · cases h
    rfl

/-- The services of a text are those that its file declares. -/
theorem services_of_ofText {text source : String} {e : Extraction}
    (h : Extraction.ofText text source = .ok e) :
    ∃ f, Schema.File.ofText text = .ok f ∧ e.services = f.services.map (declaredService f source) := by
  obtain ⟨f, hf, hd⟩ := Extraction.exists_declarations_of_ofText h
  exact ⟨f, hf, services_of_ofDeclarations (Schema.wellPlaced_of_ofText hf) hd⟩

/-- A file without a service is refused. From any other the services come in the order of their
declaration, each with its own methods, and with the packages, the imports and all messages of
the file. -/
theorem ofDeclarations_services (f : Schema.File) (h : f.WellPlaced) (source : String) :
    (Extraction.ofDeclarations f source).map Extraction.services =
      if f.services = [] then .error (.noService source)
      else .ok (f.services.map (declaredService f source)) := by
  unfold Extraction.ofDeclarations
  rw [Draft.ofEvents_eq_extend h]
  simp only [Draft.toServices_extend]
  cases f.services with
  | nil => rfl
  | cons s ss => rfl

/-- A message with a nested one between its two fields, a map and a oneof, a Go package that is
set twice in the file and once in the message, and two services around the messages. -/
def interleavedFile : Schema.File :=
  [.setting ⟨"go_package", "a/b"⟩,
   .service ⟨"first_api", [.rpc ⟨"get", "ItemRequest", ".p.ItemReply", false, true, []⟩]⟩,
   .message ⟨"Item",
     [.statement (.field ⟨"string", "id", 1, false, .bare⟩),
      .message "Part" [.statement (.field ⟨".p.Item.Kind", "kinds", 4, true, .repeated⟩)],
      .setting ⟨"go_package", "inner"⟩,
      .oneof ⟨"either", [⟨"int32", "left", 2, false, .bare⟩]⟩,
      .statement (.mapField ⟨"string", "int32", "counts", 5⟩),
      .statement (.field ⟨"Part", "part", 3, false, .optional⟩)]⟩,
   .statement (.package "p"),
   .statement (.importing ⟨"x.proto", .plain⟩),
   .service ⟨"Second", []⟩,
   .setting ⟨"go_package", " c/d ;d"⟩]

theorem ofDeclarations_services_interleaved :
    interleavedFile.WellPlaced ∧
    (Extraction.ofDeclarations interleavedFile "p.proto").map Extraction.services =
      .ok
        [⟨"FirstApi", "p", "c/d",
          [⟨"Get", "ItemRequest", "p.ItemReply", "Item", "Item", .server⟩],
          [⟨"Item", [⟨"id", "string", 1⟩, ⟨"part", "Part", 3⟩]⟩,
           ⟨"Part", [⟨"kinds", "[]Kind", 4⟩]⟩],
          ["x.proto"], "p.proto"⟩,
         ⟨"Second", "p", "c/d", [],
          [⟨"Item", [⟨"id", "string", 1⟩, ⟨"part", "Part", 3⟩]⟩,
           ⟨"Part", [⟨"kinds", "[]Kind", 4⟩]⟩],
          ["x.proto"], "p.proto"⟩] :=
  have placed : interleavedFile.WellPlaced := by decide
  ⟨placed, (ofDeclarations_services interleavedFile placed "p.proto").trans (by rfl)⟩

end ServiceScaffold.Model

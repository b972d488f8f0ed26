import ServiceScaffold.Proofs.Descriptor.Conversion
import ServiceScaffold.Proofs.Naming.Separators

/-!
# A compiled schema and its text

The conversion of a compiled schema never fails where the schema encodes a text, and both give the
same services, but for the qualification of the types of methods, exactly when the encoding is
strict or there is no service at all (`agrees_iff_strict`). A field may well have a type that
bears the name of a map entry: `namesake` encodes a text and loses a field of it.
-/
namespace ServiceScaffold.Descriptor
open Naming
open Model (ofDeclarations_eq)

/-! ## Agreement -/

/-- The methods agree in all but how their types are qualified. -/
structure SameMethod (a b : Model.Method) : Prop where
  name : a.name = b.name
  requestType : bare a.requestFull = bare b.requestFull
  responseType : bare a.responseFull = bare b.responseFull
  requestShort : a.requestShort = b.requestShort
  responseShort : a.responseShort = b.responseShort
  streaming : a.streaming = b.streaming

structure SameService (a b : Model.Service) : Prop where
  name : a.name = b.name
  protoPackage : a.protoPackage = b.protoPackage
  goPackage : a.goPackage = b.goPackage
  methods : List.Forall₂ SameMethod a.methods b.methods
  messages : a.messages = b.messages
  importPaths : a.importPaths = b.importPaths
  sourceFile : a.sourceFile = b.sourceFile

/-- Both are refused for one reason, or both give services that agree and the same warnings. -/
inductive SameOutcome : Except Failure Extraction → Except Failure Extraction → Prop
  | refused (failure : Failure) : SameOutcome (.error failure) (.error failure)
  | services {a b : Extraction} : List.Forall₂ SameService a.services b.services →
      a.warnings = b.warnings → a.sourceFile = b.sourceFile → SameOutcome (.ok a) (.ok b)

/-! ## Services -/

variable {strict : Bool}

theorem Method.Encodes.agrees {d : Method} {r : Schema.Rpc} (h : d.Encodes r) :
    SameMethod (.ofRpc d.toRpc) (.ofRpc r) ∧
      Model.rpcWarnings d.toRpc = Model.rpcWarnings r := by
  constructor
  · constructor <;>
      simp [Model.Method.ofRpc, Method.toRpc, Model.shortName, bare_relative, h.name, h.inputType,
        h.outputType, h.clientStreaming, h.serverStreaming]
  · simp [Model.rpcWarnings, Model.suffixWarnings, Method.toRpc, h.name, h.inputType,
      h.outputType]

theorem methods_agree {ds : List Method} {rs : List Schema.Rpc}
    (h : List.Forall₂ Method.Encodes ds rs) :
    List.Forall₂ SameMethod ((ds.map Method.toRpc).map .ofRpc) (rs.map .ofRpc) ∧
      (ds.map Method.toRpc).flatMap Model.rpcWarnings = rs.flatMap Model.rpcWarnings := by
  induction h with
  | nil => exact ⟨.nil, rfl⟩
  | cons hd _ ih =>
    obtain ⟨hm, hw⟩ := hd.agrees
    refine ⟨.cons hm ih.1, ?_⟩
    rw [List.map_cons, List.flatMap_cons, List.flatMap_cons, hw, ih.2]

theorem Service.toSchema_rpcs (s : Service) : s.toSchema.rpcs = s.methods.map Method.toRpc := by
  simp [Service.toSchema, Schema.Service.rpcs, List.filterMap_map]

/-! ## Files -/

/-- What the model of a service reads of the file that declares it. -/
structure SameContext (f g : Schema.File) : Prop where
  package : (Model.packageNames f).getLast?.getD "" = (Model.packageNames g).getLast?.getD ""
  goPackage : Model.goPackageValues f = Model.goPackageValues g
  imports : Model.importPaths f = Model.importPaths g

theorem services_agree {f g : Schema.File} (hc : SameContext f g)
    (hm : f.messages.flatMap Model.declaredMessages = g.messages.flatMap Model.declaredMessages)
    (source : String) {ds : List Service} {ss : List Schema.Service}
    (h : List.Forall₂ Service.Encodes ds ss) :
    List.Forall₂ SameService ((ds.map Service.toSchema).map (Model.declaredService f source))
      (ss.map (Model.declaredService g source)) := by
  induction h with
  | nil => exact .nil
  | @cons d s _ _ hd _ ih =>
    refine .cons ⟨congrArg declared hd.name, hc.package, ?_, ?_, hm, hc.imports, rfl⟩ ih
    · simp only [Model.declaredService, hc.goPackage]
    · simp only [Model.declaredService, Service.toSchema_rpcs]
      exact (methods_agree hd.methods).1

theorem warnings_agree {ds : List Service} {ss : List Schema.Service}
    (h : List.Forall₂ Service.Encodes ds ss) :
    (ds.map Service.toSchema).flatMap (fun s => s.rpcs.flatMap Model.rpcWarnings) =
      ss.flatMap fun s => s.rpcs.flatMap Model.rpcWarnings := by
  induction h with
  | nil => rfl
  | cons hd _ ih =>
    rw [List.map_cons, List.flatMap_cons, List.flatMap_cons, ih, Service.toSchema_rpcs,
      (methods_agree hd.methods).2]

/-- The messages of a file can be converted. What they declare stays, and the encoding is strict,
or some of it is lost. -/
theorem messages_ok {ds : List Message} {ms : List Schema.Message}
    (h : List.Forall₂ (Message.Encodes strict) ds ms) :
    ∃ cs : List Schema.Message, ds.mapM Message.toSchema = .ok cs ∧
      (List.Forall₂ (Message.Encodes true) ds ms ∧
          cs.flatMap Model.declaredMessages = ms.flatMap Model.declaredMessages ∨
        strict = false ∧ weight (cs.flatMap Model.declaredMessages) <
          weight (ms.flatMap Model.declaredMessages)) := by
  induction h with
  | nil => exact ⟨[], rfl, .inl ⟨.nil, rfl⟩⟩
  | @cons d m ds ms hd _ ih =>
    obtain ⟨c, hc, hcd⟩ := hd.toSchema_ok
    obtain ⟨cs, hcs, hcsd⟩ := ih
    have hw : weight (Model.declaredMessages m) =
        (Schema.directFields m.elements).length + 1 + weight (Model.nestedDeclared m.elements) := by
      rw [Model.declaredMessages, weight_cons, Model.declaredMessage, List.length_map]
    have hwc : weight (Model.declaredMessages c) = (d.fields.filter d.isPlain).length + 1 +
        weight (keptMessages (fun n => !d.isMadeUp n) d.nested) := by
      rw [hcd, weight_cons, compiledMessage, List.length_map]
    have hle := (hd.elements.kept_or_lost fun _ hn => hn).weight_le
    have hles : weight (cs.flatMap Model.declaredMessages) ≤
        weight (ms.flatMap Model.declaredMessages) := by
      rcases hcsd with ⟨_, e⟩ | ⟨_, hl⟩
      · exact Nat.le_of_eq (congrArg weight e)
      · exact Nat.le_of_lt hl
    refine ⟨c :: cs, by rw [List.mapM_cons, hc, hcs]; rfl, ?_⟩
    simp only [List.flatMap_cons, weight_append, hw, hwc]
    rcases hd.elements.kept_or_lost fun _ hn => hn with ⟨hs, hk⟩ | ⟨hs, hl⟩
    · rcases hcsd with ⟨hss, e⟩ | ⟨hss, hl⟩
      · refine .inl ⟨.cons ⟨hd.name, hs⟩ hss, ?_⟩
        rw [hcd, hk.compiledMessage_eq, hk.nested, e, hd.name, Model.declaredMessages]
      · exact .inr ⟨hss, by omega⟩
    · unfold Lost at hl
      exact .inr ⟨hs, by omega⟩

/-- The parts of a converted file. -/
theorem declarations_ok {d : File} {messages : List Schema.Message}
    (hm : d.messages.mapM Message.toSchema = .ok messages) :
    ∃ f : Schema.File, d.declarations = .ok f ∧ f.messages = messages ∧
      f.services = d.services.map Service.toSchema ∧
      Model.packageNames f = (if d.package = "" then [] else [d.package]) ∧
      Model.goPackageValues f = d.goPackage.toList ∧ Model.importPaths f = d.dependencies := by
  refine ⟨_, by rw [File.declarations, hm]; rfl, ?_, ?_, ?_, ?_, ?_⟩
  · simp [Schema.File.messages, List.filterMap_map]
  · simp [Schema.File.services, List.filterMap_map]
  · by_cases hp : d.package = "" <;>
      simp [Model.packageNames, File.openingStatements, hp, List.filterMap_map, Function.comp_def]
  · simp [Model.goPackageValues, File.settings, List.filterMap_map, Function.comp_def]
  · by_cases hp : d.package = "" <;>
      simp [Model.importPaths, File.openingStatements, File.imports, hp, List.filterMap_map,
        Function.comp_def]

theorem services_of_declarations {d : File} {f : Schema.File} (h : d.declarations = .ok f) :
    f.services = d.services.map Service.toSchema := by
  obtain ⟨messages, hm, _⟩ := bind_eq_ok h
  obtain ⟨g, hg, _, hs, _⟩ := declarations_ok hm
  obtain rfl := Except.ok.inj (h.symm.trans hg)
  exact hs

/-- The services of a compiled file have the names of its services, as names are declared. -/
theorem names_of_ofCompiled {d : File} {source : String} {e : Extraction}
    (h : Extraction.ofCompiled d source = .ok e) :
    e.services.map Model.Service.name = d.services.map fun s => declared s.name := by
  unfold Extraction.ofCompiled at h
  split at h
  · cases h
  · next f hf =>
    rw [Model.services_of_ofDeclarations (wellPlaced_of_declarations hf) h,
      services_of_declarations hf, List.map_map, List.map_map]
    rfl

theorem ElementsEncode.wellPlaced {m : Message} {ds : List Field} {ns : List Message}
    {es : List Schema.MessageElement} (h : ElementsEncode strict m ds ns es) :
    Schema.wellPlaced es = true := by
  induction h with
  | nil => rfl
  | field _ _ _ _ ih => simpa [Schema.Statement.standsInMessage] using ih
  | mapField _ _ _ ih => simpa [Schema.Statement.standsInMessage] using ih
  | group _ _ _ ih => simpa [Schema.Statement.standsInMessage] using ih
  | oneof _ _ _ ih => simpa using ih
  | @unfielded _ s _ _ _ hs _ ih =>
    cases s <;> simp_all [isUnfielded, Schema.Statement.standsInMessage]
  | setting _ ih => simpa using ih
  | message _ _ _ _ ihChild ih => simp [ihChild, ih]
  | madeUp _ _ ih => exact ih

theorem messages_wellPlaced {ds : List Message} {ms : List Schema.Message}
    (h : List.Forall₂ (Message.Encodes strict) ds ms) :
    ∀ m ∈ ms, Schema.wellPlaced m.elements = true := by
  induction h with
  | nil => simp
  | cons hd _ ih =>
    simp only [List.mem_cons, forall_eq_or_imp]
    exact ⟨hd.elements.wellPlaced, ih⟩

theorem File.Encodes.wellPlaced {d : File} {f : Schema.File} (h : d.Encodes strict f) :
    f.WellPlaced := by
  intro c hc
  cases c with
  | statement s => exact (h.statements s hc).1
  | setting s => rfl
  | message m =>
    exact messages_wellPlaced h.messages m (List.mem_filterMap.2 ⟨.message m, hc, rfl⟩)
  | service s => rfl

theorem File.Encodes.sameContext {d : File} {f g : Schema.File} (h : d.Encodes strict f)
    (hp : Model.packageNames g = if d.package = "" then [] else [d.package])
    (hg : Model.goPackageValues g = d.goPackage.toList)
    (hi : Model.importPaths g = d.dependencies) : SameContext g f := by
  refine ⟨?_, hg.trans h.goPackage.symm, hi.trans h.imports.symm⟩
  rw [hp]
  rcases h.package with hf | ⟨hf, he⟩
  · by_cases he : d.package = "" <;> simp [hf, he]
  · simp [hf, he]

/-- With one context, files give the same outcome exactly when their messages declare the same,
unless there is no service. -/
theorem sameOutcome_iff {f g : Schema.File} (hf : f.WellPlaced) (hg : g.WellPlaced)
    (hc : SameContext g f) {ds : List Service} (hs : g.services = ds.map Service.toSchema)
    (h : List.Forall₂ Service.Encodes ds f.services) (source : String) :
    SameOutcome (Extraction.ofDeclarations g source) (Extraction.ofDeclarations f source) ↔
      f.services = [] ∨
        g.messages.flatMap Model.declaredMessages = f.messages.flatMap Model.declaredMessages := by
  rw [ofDeclarations_eq hf, ofDeclarations_eq hg, hs]
  constructor
  · intro ho
    match ds, hfs : f.services, h with
    | [], [], .nil => exact .inl rfl
    | d :: ds, s :: ss, .cons _ _ =>
      rw [hfs] at ho
      cases ho with
      | services ha =>
        cases ha with
        | cons hd _ => exact .inr hd.messages
  · intro ho
    match ds, hfs : f.services, h with
    | [], [], .nil => exact .refused _
    | d :: ds, s :: ss, h =>
      rcases ho with ho | ho
      · rw [hfs] at ho
        cases ho
      · simp only [List.map_cons, if_neg (List.cons_ne_nil _ _)]
        exact .services (services_agree hc ho source h) (warnings_agree h) rfl

/-- A compiled schema that encodes a text is converted without fail. It gives what the text gives
exactly when no declaration of the text is taken for one that the compiler made up, or when there
is no service to give. -/
theorem agrees_iff_strict (d : File) (f : Schema.File) (h : d.Encodes false f)
    (source : String) : ∃ declarations, d.declarations = .ok declarations ∧
      (SameOutcome (Extraction.ofDeclarations declarations source)
          (Extraction.ofDeclarations f source) ↔
        f.services = [] ∨ d.Encodes true f) := by
  obtain ⟨messages, hm, hkept⟩ := messages_ok h.messages
  obtain ⟨g, hg, hgm, hgs, hp, hgo, hi⟩ := declarations_ok hm
  refine ⟨g, hg, ?_⟩
  rw [sameOutcome_iff h.wellPlaced (wellPlaced_of_declarations hg) (h.sameContext hp hgo hi) hgs
    h.services source, hgm]
  refine or_congr_right ⟨fun e => ?_, fun hs => ?_⟩
  · rcases hkept with ⟨hs, _⟩ | ⟨_, hl⟩
    · exact ⟨h.statements, h.package, h.goPackage, h.imports, hs, h.services⟩
    · rw [e] at hl
      exact absurd hl (Nat.lt_irrefl _)
  · obtain ⟨messages', hm', hkept'⟩ := messages_ok hs.messages
    obtain rfl : messages' = messages := Except.ok.inj (hm'.symm.trans hm)
    rcases hkept' with ⟨_, e⟩ | ⟨e, _⟩
    · exact e
    · cases e

/-- A schema in which every construct is encoded in its own way. -/
def shopText : Schema.File :=
  [.statement (.dialect "proto2"), .statement (.package "shop"),
   .statement (.importing ⟨"part.proto", .plain⟩), .setting ⟨"go_package", "a/b;b"⟩,
   .message ⟨"Item",
     [.statement (.field ⟨"string", "id", 1, false, .required⟩),
      .statement (.mapField ⟨"string", "int32", "counts", 2⟩),
      .oneof ⟨"either", [⟨"int32", "left", 3, false, .bare⟩, ⟨"Part", "right", 4, false, .bare⟩]⟩,
      .message "Part"
        [.statement (.field ⟨".shop.Kind", "kinds", 1, true, .repeated⟩),
         .statement (.reserved "2 to 4")],
      .statement (.group ⟨"Extra", 5, .optional⟩)]⟩,
   .service ⟨"Store", [.rpc ⟨"Find", "ItemRequest", "part.ItemReply", false, true, []⟩]⟩]

def shop : File :=
  { name := "shop.proto"
    package := "shop"
    dialect := "proto2"
    dependencies := ["part.proto"]
    publicDependencies := []
    weakDependencies := []
    goPackage := some "a/b;b"
    messages :=
      [.mk "Item"
        [⟨"id", 1, .required, .string, "", none, false⟩,
         ⟨"counts", 2, .repeated, .message, ".shop.Item.CountsEntry", none, false⟩,
         ⟨"left", 3, .optional, .int32, "", some 0, false⟩,
         ⟨"right", 4, .optional, .message, ".shop.Item.Part", some 0, false⟩,
         ⟨"extra", 5, .optional, .group, ".shop.Item.Extra", none, false⟩]
        [.mk "CountsEntry"
          [⟨"key", 1, .optional, .string, "", none, false⟩,
           ⟨"value", 2, .optional, .int32, "", none, false⟩] [] [] [] [] [] [] true,
         .mk "Part" [⟨"kinds", 1, .repeated, .enumeration, ".shop.Kind", none, false⟩]
          [] [] [] [⟨2, 5⟩] [] [] false,
         .mk "Extra" [] [] [] [] [] [] [] false]
        [] [] [] [] ["either"] false]
    enumerations := []
    services := [⟨"Store", [⟨"Find", ".shop.ItemRequest", ".part.ItemReply", false, true⟩]⟩] }

theorem shop_encodes (strict : Bool) : shop.Encodes strict shopText where
  statements := by simp [shopText, Schema.Statement.standsInFile]
  package := .inl rfl
  goPackage := rfl
  imports := rfl
  messages := by
    have either : MembersEncode 0
        [⟨"left", 3, .optional, .int32, "", some 0, false⟩,
         ⟨"right", 4, .optional, .message, ".shop.Item.Part", some 0, false⟩]
        [⟨"int32", "left", 3, false, .bare⟩, ⟨"Part", "right", 4, false, .bare⟩] :=
      .field ⟨rfl, rfl, .scalar rfl rfl, ⟨rfl, rfl⟩, rfl⟩ rfl rfl <|
        .field ⟨rfl, rfl, .named (.inl rfl) (by decide) (by decide), ⟨rfl, rfl⟩, rfl⟩ rfl rfl .nil
    refine .cons ⟨rfl, ?_⟩ .nil
    refine .field ⟨rfl, rfl, .scalar rfl rfl, ⟨rfl, rfl⟩, rfl⟩ (.inl rfl) (fun _ => by decide) ?_
    refine .mapField List.mem_cons_self
      ⟨rfl, rfl, rfl, rfl, rfl, by decide, _, _, rfl, .scalar rfl rfl, .scalar rfl rfl⟩ ?_
    refine .oneof rfl either <| .madeUp (.inl ⟨rfl, rfl⟩) <| .message ?_ (fun _ => by decide) rfl ?_
    · exact .field ⟨rfl, rfl, .named (.inr rfl) (by decide) (by decide), ⟨rfl, rfl⟩, rfl⟩
        (.inl rfl) (fun _ => by decide) (.unfielded rfl .nil)
    · exact .group (.tail _ <| .tail _ <| .head _)
        ⟨rfl, rfl, rfl, by decide, rfl, rfl, rfl⟩ <| .madeUp (.inr ⟨rfl, by decide⟩) .nil
  services := .cons ⟨rfl, .cons ⟨rfl, ⟨by decide, by decide⟩, by decide, by decide, rfl, rfl⟩ .nil⟩ .nil

theorem agrees_iff_strict_shop : shop.Encodes false shopText ∧
    ∃ declarations, shop.declarations = .ok declarations ∧
      SameOutcome (Extraction.ofDeclarations declarations "shop.proto")
        (Extraction.ofDeclarations shopText "shop.proto") := by
  obtain ⟨declarations, hd, h⟩ := agrees_iff_strict shop shopText (shop_encodes false) "shop.proto"
  exact ⟨shop_encodes false, declarations, hd, h.2 (.inr (shop_encodes true))⟩

/-! ## A field that bears the name of a map entry -/

/-- The second field of the second message is repeated and of the type of the first message. -/
def namesakeText : Schema.File :=
  [.statement (.package "p"),
   .message ⟨"FooEntry", [.statement (.field ⟨"string", "x", 1, false, .bare⟩)]⟩,
   .message ⟨"M",
     [.statement (.mapField ⟨"string", "int32", "foo", 1⟩),
      .statement (.field ⟨".p.FooEntry", "bar", 2, true, .repeated⟩)]⟩,
   .service ⟨"S", []⟩]

def namesake : File :=
  { name := "p.proto"
    package := "p"
    dialect := "proto3"
    dependencies := []
    publicDependencies := []
    weakDependencies := []
    goPackage := none
    messages :=
      [.mk "FooEntry" [⟨"x", 1, .optional, .string, "", none, false⟩] [] [] [] [] [] [] false,
       .mk "M"
        [⟨"foo", 1, .repeated, .message, ".p.M.FooEntry", none, false⟩,
         ⟨"bar", 2, .repeated, .message, ".p.FooEntry", none, false⟩]
        [.mk "FooEntry"
          [⟨"key", 1, .optional, .string, "", none, false⟩,
           ⟨"value", 2, .optional, .int32, "", none, false⟩] [] [] [] [] [] [] true]
        [] [] [] [] [] false]
    enumerations := []
    services := [⟨"S", []⟩] }

theorem namesake_encodes : namesake.Encodes false namesakeText where
  statements := by simp [namesakeText, Schema.Statement.standsInFile]
  package := .inl rfl
  goPackage := rfl
  imports := rfl
  messages := by
    refine .cons ⟨rfl, .field ⟨rfl, rfl, .scalar rfl rfl, ⟨rfl, rfl⟩, rfl⟩ (.inl rfl)
      (fun h => absurd h Bool.false_ne_true) .nil⟩ <| .cons ⟨rfl, ?_⟩ .nil
    refine .mapField List.mem_cons_self
      ⟨rfl, rfl, rfl, rfl, rfl, by decide, _, _, rfl, .scalar rfl rfl, .scalar rfl rfl⟩ ?_
    exact .field ⟨rfl, rfl, .named (.inl rfl) (by decide) (by decide), ⟨rfl, rfl⟩, rfl⟩ (.inl rfl)
      (fun h => absurd h Bool.false_ne_true) <| .madeUp (.inl ⟨rfl, rfl⟩) .nil
  services := .cons ⟨rfl, .nil⟩ .nil

/-- The field is taken for another map field, and its message has no field left. -/
theorem namesake_loses_field : namesake.Encodes false namesakeText ∧
    ∃ declarations, namesake.declarations = .ok declarations ∧
      (Extraction.ofDeclarations declarations "p.proto").map Extraction.services =
        .ok [⟨"S", "p", "", [], [⟨"FooEntry", [⟨"x", "string", 1⟩]⟩, ⟨"M", []⟩], [], "p.proto"⟩] ∧
      ¬ SameOutcome (Extraction.ofDeclarations declarations "p.proto")
        (Extraction.ofDeclarations namesakeText "p.proto") := by
  refine ⟨namesake_encodes, [.statement (.dialect "proto3"), .statement (.package "p"),
    .message ⟨"FooEntry", [.statement (.field ⟨"string", "x", 1, false, .bare⟩)]⟩,
    .message ⟨"M", [.statement (.mapField ⟨"string", "int32", "foo", 1⟩),
      .statement (.mapField ⟨"string", "int32", "bar", 2⟩)]⟩,
    .service ⟨"S", []⟩], ?_, ?_, ?_⟩
  · cbv
  · rw [ofDeclarations_eq (by decide)]
    rfl
  · rw [ofDeclarations_eq (by decide), ofDeclarations_eq (by decide)]
    rintro (_ | ⟨h, _⟩)
    cases h with
    | cons h _ => exact absurd h.messages (by decide)

end ServiceScaffold.Descriptor

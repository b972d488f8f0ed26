import ServiceScaffold.Proofs.Model.Declared

/-!
# Declarations of different kinds do not meet

What a draft keeps falls into parts, one for each `Stream` of events. An event leaves every part but
that of its own stream as it is (`step_part_of_ne`) and reads no other (`step_part`), so that a
draft depends on the streams alone and not on how they are merged. Events that come while nothing is
open are covered, since it is the part of their own stream that says whether anything is.
-/
namespace ServiceScaffold.Model
open Schema (Event MessageElement)

/-! ## Streams -/

/-- The kinds of events that leave a mark on a draft. -/
inductive Stream where
  | messages
  | services
  | packages
  | imports
  | goPackages
  deriving DecidableEq, Repr

/-- The stream of an event: a field goes with the messages, an rpc with the services. -/
def stream? : Event → Option Stream
  | .message _ => some .messages
  | .statement (.field _) => some .messages
  | .service _ => some .services
  | .rpc _ => some .services
  | .statement (.package _) => some .packages
  | .statement (.importing _) => some .imports
  | .setting s => if s.name = goPackageSetting then some .goPackages else none
  | _ => none

/-- The events of one stream, in their order. -/
def onStream (s : Stream) (events : List Event) : List Event :=
  events.filter fun e => stream? e = some s

/-- The same events in each stream, however the streams are merged. -/
def SameStreams (es es' : List Event) : Prop :=
  ∀ s, onStream s es = onStream s es'

theorem onStream_append (s : Stream) (es es' : List Event) :
    onStream s (es ++ es') = onStream s es ++ onStream s es' :=
  List.filter_append ..

theorem onStream_eq_nil {s : Stream} {es : List Event} (h : ∀ e ∈ es, stream? e ≠ some s) :
    onStream s es = [] := by
  refine List.filter_eq_nil_iff.2 ?_
  intro e he
  simpa using h e he

/-! ## Parts of a draft -/

namespace Draft

/-- The draft with only what the events of one stream have left. -/
def part (d : Draft) : Stream → Draft
  | .messages => { empty with messages := d.messages }
  | .services => { empty with services := d.services, warnings := d.warnings }
  | .packages => { empty with protoPackage := d.protoPackage }
  | .imports => { empty with imports := d.imports }
  | .goPackages => { empty with goPackage := d.goPackage }

/-- A draft is no more than its parts. -/
theorem eq_of_part_eq {d d' : Draft} (h : ∀ s, d.part s = d'.part s) : d = d' := by
  have messages := congrArg Draft.messages (h .messages)
  have services := congrArg Draft.services (h .services)
  have warnings := congrArg Draft.warnings (h .services)
  have protoPackage := congrArg Draft.protoPackage (h .packages)
  have imports := congrArg Draft.imports (h .imports)
  have goPackage := congrArg Draft.goPackage (h .goPackages)
  cases d
  cases d'
  simp_all [part]

theorem step_part_of_ne {s : Stream} {e : Event} (h : stream? e ≠ some s) (d : Draft) :
    (step d e).part s = d.part s := by
  cases e with
  | statement t => cases t <;> cases s <;> first | rfl | exact absurd rfl h
  | setting t =>
    by_cases hn : t.name = goPackageSetting
    · cases s <;> simp_all [stream?, step, part]
    · simp [step, hn]
  | message name => cases s <;> first | rfl | exact absurd rfl h
  | service name => cases s <;> first | rfl | exact absurd rfl h
  | rpc r =>
    -- a draft without a service stays as it is
    rw [step]
    split
    · rfl
    · cases s <;> first | rfl | exact absurd rfl h
  | oneof name => rfl
  | oneofField f => rfl

theorem step_part {d d' : Draft} {s : Stream} (h : d.part s = d'.part s) (e : Event) :
    (step d e).part s = (step d' e).part s := by
  by_cases hs : stream? e = some s
  · cases e with
    | statement t =>
      cases t <;> cases hs
      · rfl
      · have himports := congrArg Draft.imports h
        simp_all [step, part]
      · have hmessages := congrArg Draft.messages h
        simp_all [step, part]
    | setting t =>
      by_cases hn : t.name = goPackageSetting
      · obtain rfl : Stream.goPackages = s := by simpa [stream?, hn] using hs
        simp [step, hn, part]
      · simp [stream?, hn] at hs
    | message name =>
      cases hs
      have hmessages := congrArg Draft.messages h
      simp_all [step, part]
    | service name =>
      cases hs
      have hservices := congrArg Draft.services h
      have hwarnings := congrArg Draft.warnings h
      simp_all [step, part]
    | rpc r =>
      cases hs
      have hservices : d.services = d'.services := by simpa [part] using congrArg Draft.services h
      have hwarnings : d.warnings = d'.warnings := by simpa [part] using congrArg Draft.warnings h
      rw [step, step, hservices]
      split
      · exact h
      · simp [part, hwarnings]
    | oneof name => cases hs
    | oneofField f => cases hs
  · rw [step_part_of_ne hs, step_part_of_ne hs, h]

/-- What the events leave in a part is what those of its stream leave there. -/
theorem foldl_step_part {s : Stream} (es : List Event) {d d' : Draft} (h : d.part s = d'.part s) :
    (es.foldl step d).part s = ((onStream s es).foldl step d').part s := by
  induction es generalizing d d' with
  | nil => exact h
  | cons e es ih =>
    by_cases hs : stream? e = some s
    · rw [onStream, List.filter_cons_of_pos (by simpa using hs)]
      exact ih (step_part h e)
    · rw [onStream, List.filter_cons_of_neg (by simpa using hs)]
      exact ih ((step_part_of_ne hs d).trans h)

theorem ofEvents_eq_of_sameStreams {es es' : List Event} (h : SameStreams es es') :
    ofEvents es = ofEvents es' := by
  refine eq_of_part_eq ?_
  intro s
  calc (ofEvents es).part s
      = ((onStream s es).foldl step empty).part s := foldl_step_part es rfl
    _ = ((onStream s es').foldl step empty).part s := by rw [h s]
    _ = (ofEvents es').part s := (foldl_step_part es' rfl).symm

end Draft

/-! ## Services -/

/-- The services that a sequence of events builds; without a service it is refused. -/
def built (events : List Event) (source : String) : Except Failure (List Service) :=
  match (Draft.ofEvents events).toServices source with
  | [] => .error (.noService source)
  | services => .ok services

/-- The services of a file are those that its events build. -/
theorem services_eq_built (f : Schema.File) (source : String) :
    (Extraction.ofDeclarations f source).map Extraction.services = built f.events source := by
  rw [Extraction.ofDeclarations, built]
  cases (Draft.ofEvents f.events).toServices source with
  | nil => rfl
  | cons s ss => rfl

def isService : Schema.Declaration → Bool
  | .service _ => true
  | _ => false

/-- The declarations of a file that declare no service, in their order. -/
def besidesServices (f : Schema.File) : Schema.File :=
  f.filter fun c => !isService c

/-- Nothing that stands in a message goes with the services. -/
theorem stream?_ne_of_mem_ownEvents {es : List MessageElement} {e : Event}
    (h : e ∈ es.flatMap MessageElement.ownEvents) : stream? e ≠ some .services := by
  obtain ⟨element, _, he⟩ := List.mem_flatMap.1 h
  cases element with
  | statement s =>
    obtain rfl := List.mem_singleton.1 he
    cases s <;> simp [stream?]
  | oneof o =>
    rcases List.mem_cons.1 he with rfl | he
    · simp [stream?]
    · obtain ⟨f, _, rfl⟩ := List.mem_map.1 he
      simp [stream?]
  | setting s => cases he
  | message name elements => cases he

theorem stream?_ne_of_mem_nestedEvents {es : List MessageElement} {e : Event}
    (h : e ∈ Schema.nestedEvents es) : stream? e ≠ some .services := by
  fun_induction Schema.nestedEvents es with
  | case1 => cases h
  | case2 name elements rest ihInner ihRest =>
    rcases List.mem_append.1 h with h | h
    · rcases List.mem_append.1 h with h | h
      · rcases List.mem_cons.1 h with rfl | h
        · simp [stream?]
        · exact stream?_ne_of_mem_ownEvents h
      · exact ihInner h
    · exact ihRest h
  | case3 e rest _ ih => exact ih h

theorem stream?_ne_of_not_isService {c : Schema.Declaration} (hc : isService c = false) {e : Event}
    (h : e ∈ c.events) : stream? e ≠ some .services := by
  cases c with
  | statement s =>
    obtain rfl := List.mem_singleton.1 h
    cases s <;> simp [stream?]
  | setting s =>
    obtain rfl := List.mem_singleton.1 h
    simp [stream?]
  | message m =>
    rcases List.mem_append.1 h with h | h
    · rcases List.mem_cons.1 h with rfl | h
      · simp [stream?]
      · exact stream?_ne_of_mem_ownEvents h
    · exact stream?_ne_of_mem_nestedEvents h
  | service s => cases hc

theorem stream?_of_mem_serviceEvents {s : Schema.Service} {e : Event} (h : e ∈ s.events) :
    stream? e = some .services := by
  rcases List.mem_cons.1 h with rfl | h
  · rfl
  · obtain ⟨r, _, rfl⟩ := List.mem_map.1 h
    rfl

theorem onStream_services (f : Schema.File) :
    onStream .services f.events = f.services.flatMap Schema.Service.events := by
  induction f with
  | nil => rfl
  | cons c f ih =>
    rw [Schema.File.events] at ih ⊢
    rw [List.flatMap_cons, onStream_append, ih]
    cases hc : isService c with
    | false =>
      rw [onStream_eq_nil fun e he => stream?_ne_of_not_isService hc he]
      cases c <;> first | rfl | cases hc
    | true =>
      cases c with
      | service s =>
        have hs : onStream .services s.events = s.events :=
          List.filter_eq_self.2 fun e he => by simpa using stream?_of_mem_serviceEvents he
        exact congrArg (· ++ _) hs
      | _ => cases hc

theorem onStream_besidesServices {s : Stream} (hs : s ≠ .services) (f : Schema.File) :
    onStream s f.events = onStream s (besidesServices f).events := by
  induction f with
  | nil => rfl
  | cons c f ih =>
    rw [Schema.File.events, Schema.File.events] at ih
    rw [Schema.File.events, List.flatMap_cons, onStream_append, ih]
    cases hc : isService c with
    | false =>
      have hb : besidesServices (c :: f) = c :: besidesServices f :=
        List.filter_cons_of_pos (by simp [hc])
      rw [hb, Schema.File.events, List.flatMap_cons, onStream_append]
    | true =>
      have hb : besidesServices (c :: f) = besidesServices f :=
        List.filter_cons_of_neg (by simp [hc])
      have hnil : onStream s c.events = [] := by
        refine onStream_eq_nil ?_
        intro e he hstream
        cases c with
        | service t =>
          rw [stream?_of_mem_serviceEvents he] at hstream
          exact hs (Option.some.inj hstream).symm
        | _ => cases hc
      rw [hb, hnil]
      rfl

theorem sameStreams_events {f g : Schema.File} (hs : f.services = g.services)
    (ho : besidesServices f = besidesServices g) : SameStreams f.events g.events := by
  intro s
  by_cases h : s = .services
  · rw [h, onStream_services, onStream_services, hs]
  · rw [onStream_besidesServices h, ho, ← onStream_besidesServices h]

/-- Sequences of events with the same streams build the same services, or are refused alike, with
the same warnings. So services may stand anywhere among the other declarations of a file. -/
theorem built_eq_of_sameStreams :
    (∀ es es', SameStreams es es' → ∀ source, built es source = built es' source ∧
      (Draft.ofEvents es).warnings = (Draft.ofEvents es').warnings) ∧
    ∀ f g : Schema.File, f.services = g.services → besidesServices f = besidesServices g →
      ∀ source, Extraction.ofDeclarations f source = Extraction.ofDeclarations g source := by
  constructor
  · intro es es' h source
    rw [built, built, Draft.ofEvents_eq_of_sameStreams h]
    exact ⟨rfl, rfl⟩
  · intro f g hs ho source
    rw [Extraction.ofDeclarations, Extraction.ofDeclarations,
      Draft.ofEvents_eq_of_sameStreams (sameStreams_events hs ho)]

/-- A file with its services moved to the front. -/
def servicesFirst (f : Schema.File) : Schema.File :=
  f.services.map .service ++ besidesServices f

/-- An rpc and a field before anything is open, then the streams one after the other. -/
def gatheredEvents : List Event :=
  [.rpc ⟨"Lost", "A", "B", false, false, []⟩,
   .service "shop", .rpc ⟨"get", "Item", ".p.ItemReply", false, true, []⟩,
   .service "Other",
   .statement (.field ⟨"string", "lost", 1, false, .bare⟩),
   .message "Item", .statement (.field ⟨"string", "id", 1, false, .bare⟩),
   .statement (.package "p"), .statement (.package "q"),
   .setting ⟨"go_package", "a/b"⟩]

/-- The same streams, with declarations between them that leave no mark. -/
def scatteredEvents : List Event :=
  [.setting ⟨"java_package", "j"⟩, .statement (.package "p"),
   .statement (.field ⟨"string", "lost", 1, false, .bare⟩),
   .rpc ⟨"Lost", "A", "B", false, false, []⟩,
   .message "Item", .service "shop", .statement (.field ⟨"string", "id", 1, false, .bare⟩),
   .setting ⟨"go_package", "a/b"⟩, .oneof "either",
   .rpc ⟨"get", "Item", ".p.ItemReply", false, true, []⟩, .statement (.package "q"),
   .service "Other"]

theorem built_eq_of_sameStreams_scattered :
    (SameStreams gatheredEvents scatteredEvents ∧
      built gatheredEvents "p.proto" = built scatteredEvents "p.proto") ∧
    Extraction.ofDeclarations interleavedFile "p.proto" =
      Extraction.ofDeclarations (servicesFirst interleavedFile) "p.proto" := by
  have same : SameStreams gatheredEvents scatteredEvents := by
    intro s
    cases s <;> rfl
  refine ⟨⟨same, (built_eq_of_sameStreams.1 gatheredEvents scatteredEvents same "p.proto").1⟩, ?_⟩
  exact built_eq_of_sameStreams.2 interleavedFile (servicesFirst interleavedFile) rfl rfl "p.proto"

end ServiceScaffold.Model

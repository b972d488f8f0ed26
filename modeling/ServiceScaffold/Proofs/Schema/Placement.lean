import ServiceScaffold.Descriptor.Conversion
import ServiceScaffold.Proofs.Schema.Loops

/-!
# Where a declaration may stand

A field belongs in a message and an import in the file. The type of statements does not tell them
apart, so `File.WellPlaced` says it of a whole file. Both readers give well placed files only:
`wellPlaced_of_ofText` for a text and `wellPlaced_of_declarations` for a compiled schema.
-/
namespace ServiceScaffold.Schema

/-! ## Well placed declarations -/

def Statement.standsInFile : Statement → Bool
  | .dialect _ | .package _ | .importing _ | .enumeration _ | .extend _ => true
  | _ => false

def Statement.standsInMessage : Statement → Bool
  | .field _ | .mapField _ | .group _ | .enumeration _ | .reserved _ | .extensions _
  | .extend _ => true
  | _ => false

mutual

@[simp] def MessageElement.wellPlaced : MessageElement → Bool
  | .statement s => s.standsInMessage
  | .oneof _ => true
  | .setting _ => true
  | .message _ elements => Schema.wellPlaced elements

/-- Whether every statement among the elements and in the messages nested in them may stand in a
message. -/
@[simp] def wellPlaced : List MessageElement → Bool
  | [] => true
  | e :: es => e.wellPlaced && Schema.wellPlaced es

end

@[simp] def Declaration.wellPlaced : Declaration → Bool
  | .statement s => s.standsInFile
  | .message m => Schema.wellPlaced m.elements
  | _ => true

/-- Each declaration of the file stands where declarations of its kind may stand. -/
def File.WellPlaced (f : File) : Prop :=
  ∀ d ∈ f, d.wellPlaced = true

instance (f : File) : Decidable f.WellPlaced :=
  inferInstanceAs (Decidable (∀ d ∈ f, d.wellPlaced = true))

theorem wellPlaced_append (es fs : List MessageElement) :
    wellPlaced (es ++ fs) = (wellPlaced es && wellPlaced fs) := by
  induction es with
  | nil => simp
  | cons e es ih => simp [ih, Bool.and_assoc]

/-! ## What a parser yields -/

/-- Whatever the parser reads has the property. -/
def Parser.Yields {α : Type} (p : Parser α) (P : α → Prop) : Prop :=
  ∀ ⦃ts a rest⦄, p.run ts = .ok (a, rest) → P a

/-- Whatever the parser reads from lexemes of a kind has the property. -/
def Parser.YieldsFrom {α : Type} (L : Lexeme → Prop) (p : Parser α) (P : α → Prop) : Prop :=
  ∀ ⦃ts a rest⦄, (∀ l ∈ ts, L l) → p.run ts = .ok (a, rest) → P a

namespace Parser

variable {α β : Type} {P : α → Prop} {Q : β → Prop} {L : Lexeme → Prop}

theorem yieldsFrom_true {p : Parser α} : YieldsFrom (fun _ => True) p P ↔ Yields p P :=
  ⟨fun h _ _ _ hr => h (fun _ _ => trivial) hr, fun h _ _ _ _ hr => h hr⟩

/-- Lexemes behind those that were read are lexemes of the same kind. -/
theorem forall_mem_rest {p : Parser α} {ts rest : List Lexeme} {a : α} (hl : ∀ l ∈ ts, L l)
    (h : p.run ts = .ok (a, rest)) : ∀ l ∈ rest, L l :=
  fun l hm => hl l ((p.suffix h).mem hm)

theorem YieldsFrom.pure {a : α} (h : P a) : YieldsFrom L (Pure.pure a : Parser α) P := by
  rintro ts b rest _ ⟨⟩
  exact h

theorem YieldsFrom.bind {p : Parser α} {f : α → Parser β} (hp : YieldsFrom L p P)
    (hf : ∀ a, P a → YieldsFrom L (f a) Q) : YieldsFrom L (p >>= f) Q := by
  intro ts b rest hl hb
  obtain ⟨a, mid, ha, hm⟩ := run_bind_eq_ok.1 hb
  exact hf a (hp hl ha) (forall_mem_rest hl ha) hm

theorem YieldsFrom.after (p : Parser α) {f : α → Parser β} (hf : ∀ a, YieldsFrom L (f a) Q) :
    YieldsFrom L (p >>= f) Q :=
  YieldsFrom.bind (P := fun _ => True) (fun _ _ _ _ _ => trivial) fun a _ => hf a

theorem YieldsFrom.ite {c : Prop} [Decidable c] {p q : Parser α} (hp : YieldsFrom L p P)
    (hq : YieldsFrom L q P) : YieldsFrom L (if c then p else q) P := by
  split <;> assumption

theorem YieldsFrom.refuse (cause : Lexeme → Cause) :
    YieldsFrom L (Parser.refuse cause : Parser α) P := by
  rintro ts a rest _ ⟨⟩

theorem YieldsFrom.map {p : Parser α} {f : α → β} (h : YieldsFrom L p fun a => Q (f a)) :
    YieldsFrom L (f <$> p) Q := by
  rw [← bind_pure_comp]
  exact h.bind fun _ ha => .pure ha

/-- A loop yields a list of which every member comes from an item. -/
theorem itemsFrom_yieldsFrom {stop : List Lexeme → Bool} {item : Parser (Option α)}
    {hc : Consuming item} (hi : YieldsFrom L item fun o => ∀ a ∈ o, P a) {ts rest : List Lexeme}
    {as : List α} (hl : ∀ l ∈ ts, L l) (h : itemsFrom stop item hc ts = .ok (as, rest)) :
    ∀ a ∈ as, P a := by
  rw [itemsFrom_eq_ok] at h
  induction h with
  | done => exact fun a ha => absurd ha List.not_mem_nil
  | item _ hm _ ih =>
    intro a ha
    rcases List.mem_append.1 ha with ha | ha
    · exact hi hl hm a (Option.mem_toList.1 ha)
    · exact ih (forall_mem_rest hl hm) a ha

theorem YieldsFrom.braced {item : Parser (Option α)} {hc : Consuming item}
    (hi : YieldsFrom L item fun o => ∀ a ∈ o, P a) :
    YieldsFrom L (Parser.braced item hc) fun as => ∀ a ∈ as, P a := by
  have loop : YieldsFrom L (items atBodyEnd item hc) fun as => ∀ a ∈ as, P a :=
    fun _ _ _ hl h => itemsFrom_yieldsFrom hi hl h
  exact .after _ fun _ => loop.bind fun _ h => .after _ fun _ => .pure h

theorem Yields.pure {a : α} (h : P a) : Yields (Pure.pure a : Parser α) P :=
  yieldsFrom_true.1 (.pure h)

theorem Yields.bind {p : Parser α} {f : α → Parser β} (hp : Yields p P)
    (hf : ∀ a, P a → Yields (f a) Q) : Yields (p >>= f) Q :=
  yieldsFrom_true.1 ((yieldsFrom_true.2 hp).bind fun a ha => yieldsFrom_true.2 (hf a ha))

theorem Yields.after (p : Parser α) {f : α → Parser β} (hf : ∀ a, Yields (f a) Q) :
    Yields (p >>= f) Q :=
  yieldsFrom_true.1 (.after p fun a => yieldsFrom_true.2 (hf a))

theorem Yields.ite {c : Prop} [Decidable c] {p q : Parser α} (hp : Yields p P)
    (hq : Yields q P) : Yields (if c then p else q) P := by
  split <;> assumption

theorem Yields.refuse (cause : Lexeme → Cause) : Yields (Parser.refuse cause : Parser α) P :=
  yieldsFrom_true.1 (.refuse cause)

theorem Yields.map {p : Parser α} {f : α → β} (h : Yields p fun a => Q (f a)) :
    Yields (f <$> p) Q :=
  yieldsFrom_true.1 (.map (yieldsFrom_true.2 h))

end Parser

/-! ## Texts -/

namespace Grammar
open Schema.Parser

def Entry.wellPlaced : Entry → Bool
  | .element e => e.wellPlaced
  | _ => true

theorem entry_yields : Yields entry fun e => e.wellPlaced = true :=
  .after _ fun _ => .ite (.after _ fun _ => .pure rfl) <|
    .after _ fun _ => .ite (.after _ fun _ => .after _ fun _ => .after _ fun _ => .pure rfl) <|
    .after _ fun _ => .ite (.after _ fun _ => .pure rfl) <|
    .after _ fun _ => .ite (.after _ fun _ => .pure rfl) <|
    .after _ fun _ => .ite (.after _ fun _ => .pure rfl) <|
    .ite (.after _ fun _ => .pure rfl) <|
    .after _ fun _ => .ite (.after _ fun _ => .after _ fun _ => .pure rfl) <|
    .after _ fun _ => .ite (.after _ fun _ => .after _ fun _ => .pure rfl) <|
    .after _ fun _ => .ite (.after _ fun _ => .pure rfl) <|
    .after _ fun _ => .ite (.after _ fun _ => .pure rfl) <|
    .ite (.after _ fun _ => .pure rfl) (.refuse _)

theorem elementsRead_wellPlaced {ts rest : List Lexeme} {es : List MessageElement}
    (h : ElementsRead ts es rest) : Schema.wellPlaced es = true := by
  induction h with
  | done => rfl
  | blank _ _ ih => exact ih
  | element he _ ih =>
    have hp := entry_yields he
    simp only [Entry.wellPlaced] at hp
    simp [hp, ih]
  | opens _ _ _ _ ihInner ih => simp [ihInner, ih]

theorem elements_yields : Yields elements fun es => Schema.wellPlaced es = true := by
  intro ts es rest h
  exact elementsRead_wellPlaced (elements_run_eq_ok.1 h)

theorem message_yields : Yields message fun m => Schema.wellPlaced m.elements = true :=
  .after _ fun _ => .after _ fun _ => .after _ fun _ =>
    elements_yields.bind fun _ h => .after _ fun _ => .pure h

theorem declaration_yields :
    Yields declaration fun o => ∀ d ∈ o, d.wellPlaced = true := by
  have placed : ∀ {α : Type} (p : Parser α) {f : α → Declaration},
      (∀ a, (f a).wellPlaced = true) → Yields ((some ∘ f) <$> p) fun o =>
        ∀ d ∈ o, d.wellPlaced = true := by
    intro α p f hf
    refine .map ?_
    intro ts a rest _ d hd
    cases hd
    exact hf a
  refine .after _ ?_
  intro k
  split
  · exact placed _ fun _ => rfl
  · exact placed _ fun _ => rfl
  · exact placed _ fun _ => rfl
  · exact placed _ fun _ => rfl
  · exact placed _ fun _ => rfl
  · refine .map ?_
    intro ts m rest hm d hd
    cases hd
    exact message_yields hm
  · exact placed _ fun _ => rfl
  · exact placed _ fun _ => rfl
  · exact placed _ fun _ => rfl
  · exact .after _ fun _ => .pure fun d hd => nomatch hd
  · exact .refuse _

/-- What holds of every declaration that is read holds throughout the file. -/
theorem forall_mem_of_file {L : Lexeme → Prop} {P : Declaration → Prop}
    (hp : YieldsFrom L declaration fun o => ∀ d ∈ o, P d) {ts : List Lexeme} {f : File}
    (hl : ∀ l ∈ ts, L l) (h : file ts = .ok f) : ∀ d ∈ f, P d := by
  unfold file at h
  cases hr : declarations.run ts with
  | error e => rw [hr] at h; cases h
  | ok r =>
    rw [hr] at h
    cases h
    exact itemsFrom_yieldsFrom hp hl hr

end Grammar

theorem wellPlaced_of_file {ts : List Lexeme} {f : File} (h : Grammar.file ts = .ok f) :
    f.WellPlaced :=
  Grammar.forall_mem_of_file (Parser.yieldsFrom_true.2 Grammar.declaration_yields)
    (fun _ _ => trivial) h

theorem wellPlaced_of_ofText {text : String} {f : File} (h : File.ofText text = .ok f) :
    f.WellPlaced := by
  unfold File.ofText at h
  cases ht : readTokens text with
  | error e => rw [ht] at h; cases h
  | ok tokens =>
    rw [ht] at h
    cases hf : Grammar.file tokens.lexemes with
    | error e =>
      simp only [bind, Except.bind, hf] at h
      cases h
    | ok g =>
      simp only [bind, Except.bind, hf] at h
      cases h
      exact wellPlaced_of_file hf

end ServiceScaffold.Schema

/-! ## Compiled schemas -/

namespace ServiceScaffold.Descriptor
open Schema (wellPlaced wellPlaced_append)

theorem bind_eq_ok {α β : Type} {x : Except MissingPart α} {f : α → Except MissingPart β} {b : β}
    (h : x >>= f = .ok b) : ∃ a, x = .ok a ∧ f a = .ok b := by
  cases x with
  | error e => cases h
  | ok a => exact ⟨a, rfl, h⟩

theorem Message.fieldElements_wellPlaced {m : Message} {seen : List Int} {fs : List Field}
    {es : List Schema.MessageElement} (h : m.fieldElements seen fs = .ok es) :
    wellPlaced es = true := by
  induction fs generalizing seen es with
  | nil => cases h; rfl
  | cons f fs ih =>
    simp only [fieldElements] at h
    split at h
    · obtain ⟨head, _, h⟩ := bind_eq_ok h
      obtain ⟨tail, ht, h⟩ := bind_eq_ok h
      cases h
      simpa [Schema.Statement.standsInMessage] using ih ht
    · split at h
      · exact ih h
      · obtain ⟨name, _, h⟩ := bind_eq_ok h
        obtain ⟨tail, ht, h⟩ := bind_eq_ok h
        cases h
        simpa [Schema.Statement.standsInMessage] using ih ht
    · obtain ⟨tail, ht, h⟩ := bind_eq_ok h
      cases h
      simpa [Schema.Statement.standsInMessage] using ih ht
    · obtain ⟨tail, ht, h⟩ := bind_eq_ok h
      cases h
      simpa [Schema.Statement.standsInMessage] using ih ht

theorem Message.closingElements_wellPlaced (m : Message) :
    wellPlaced m.closingElements = true := by
  have all : ∀ ss : List Schema.Statement, (∀ s ∈ ss, s.standsInMessage = true) →
      wellPlaced (ss.map .statement) = true := by
    intro ss hs
    induction ss with
    | nil => rfl
    | cons s ss ih =>
      simp only [List.mem_cons, forall_eq_or_imp] at hs
      simp [hs.1, ih hs.2]
  refine all _ ?_
  intro s hs
  simp only [closingStatements, List.mem_append, List.mem_map] at hs
  rcases hs with ((⟨_, _, rfl⟩ | ⟨_, _, rfl⟩) | ⟨_, _, rfl⟩) | ⟨_, _, rfl⟩ <;> rfl

theorem nestedElements_wellPlaced {keep : Message → Bool} {ms : List Message}
    {es : List Schema.MessageElement} (h : nestedElements keep ms = .ok es) :
    wellPlaced es = true := by
  fun_induction nestedElements keep ms generalizing es with
  | case1 => cases h; rfl
  | case2 keep m ms hk ihInner ihTail =>
    obtain ⟨own, ho, h⟩ := bind_eq_ok h
    obtain ⟨inner, hi, h⟩ := bind_eq_ok h
    obtain ⟨tail, ht, h⟩ := bind_eq_ok h
    cases h
    simp [wellPlaced_append, Message.fieldElements_wellPlaced ho, ihInner hi, ihTail ht,
      m.closingElements_wellPlaced]
  | case3 keep m ms hk ih => exact ih h

theorem Message.elements_wellPlaced {m : Message} {es : List Schema.MessageElement}
    (h : m.elements = .ok es) : wellPlaced es = true := by
  obtain ⟨own, ho, h⟩ := bind_eq_ok h
  obtain ⟨inner, hi, h⟩ := bind_eq_ok h
  cases h
  simp [wellPlaced_append, fieldElements_wellPlaced ho, nestedElements_wellPlaced hi,
    m.closingElements_wellPlaced]

theorem toSchema_wellPlaced {ms : List Message} {messages : List Schema.Message}
    (h : ms.mapM Message.toSchema = .ok messages) :
    ∀ m ∈ messages, wellPlaced m.elements = true := by
  induction ms generalizing messages with
  | nil => cases h; simp
  | cons m ms ih =>
    rw [List.mapM_cons] at h
    obtain ⟨head, hh, h⟩ := bind_eq_ok h
    obtain ⟨tail, ht, h⟩ := bind_eq_ok h
    obtain ⟨es, he, hh⟩ := bind_eq_ok hh
    cases h
    cases hh
    simpa [m.elements_wellPlaced he] using ih ht

theorem wellPlaced_of_declarations {d : File} {f : Schema.File} (h : d.declarations = .ok f) :
    f.WellPlaced := by
  obtain ⟨messages, hm, h⟩ := bind_eq_ok h
  cases h
  intro c hc
  simp only [List.mem_append, List.mem_map, File.openingStatements, List.mem_cons] at hc
  rcases hc with (((⟨s, hs, rfl⟩ | ⟨s, _, rfl⟩) | ⟨m, hm', rfl⟩) | ⟨e, _, rfl⟩) | ⟨s, _, rfl⟩
  · rcases hs with (rfl | hs) | ⟨i, _, rfl⟩
    · rfl
    · split at hs
      · cases hs
      · cases List.mem_singleton.1 hs
        rfl
    · rfl
  · rfl
  · exact toSchema_wellPlaced hm m hm'
  · rfl
  · rfl

end ServiceScaffold.Descriptor

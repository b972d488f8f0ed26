import ServiceScaffold.Proofs.Schema.Placement
import ServiceScaffold.Proofs.Schema.Spacing

/-!
# The words of a schema

A name or a type in an accepted text is the text of one lexeme, and a lexeme that serves as a name
is a word. The parsers hand that on to the messages, the methods and the services of the file
(`File.Spelled`), together with what they check of a field: its number and its label.
-/
namespace ServiceScaffold.Schema
open Text Lexer Lexical

/-! ## Words -/

namespace Lexical

theorem ne_dot_of_startsName {c : Char} (h : startsName c = true) : c ≠ '.' := by
  rintro rfl
  exact absurd h (by decide)

/-- A word goes on with a letter or an underscore where it starts with a dot. -/
theorem WordRun.starts_cases {s : List Char} (h : WordRun s) :
    ∃ c cs, startsName c = true ∧ (s = c :: cs ∨ s = '.' :: c :: cs) := by
  obtain ⟨c, cs, rfl, hc⟩ := h.starts
  simp only [startsWord, Bool.or_eq_true, Bool.and_eq_true, decide_eq_true_eq] at hc
  rcases hc with hc | ⟨rfl, hn⟩
  · exact ⟨c, cs, hc, .inl rfl⟩
  · cases cs with
    | nil => cases hn
    | cons d ds => exact ⟨d, ds, hn, .inr rfl⟩

theorem WordRun.slash_not_mem {s : List Char} (h : WordRun s) : '/' ∉ s := by
  intro hm
  obtain ⟨front, behind, rfl⟩ := List.append_of_mem hm
  rcases h.continues '/' behind (List.suffix_append _ _) with h | h | ⟨h, _⟩
  · exact absurd h (by decide)
  · exact absurd h (by decide)
  · exact absurd h (by decide)

theorem WordRun.lbracket_not_mem {s : List Char} (h : WordRun s) : '[' ∉ s := by
  intro hm
  have hb : isBreak '[' = true := isBreak_delimiter .lbracket
  rw [h.isBreak_eq_false hm] at hb
  cases hb

/-- A letter or an underscore follows the last dot. -/
theorem WordRun.afterLast_ne_nil {s : List Char} (h : WordRun s) : afterLast '.' s ≠ [] := by
  intro hlast
  obtain ⟨front, hs, hfront⟩ := eq_append_afterLast '.' s
  rw [hlast, List.append_nil] at hs
  subst hs
  rcases hfront with rfl | ⟨before, rfl⟩
  · obtain ⟨c, cs, he, _⟩ := h.starts
    cases he
  · rcases h.continues '.' [] (List.suffix_append _ _) with h | h | ⟨_, h⟩
    · exact absurd h (by decide)
    · exact absurd h (by decide)
    · cases h

end Lexical

/-! ## What is read of a file -/

structure Field.Spelled (f : Field) : Prop where
  type : WordRun f.typeName.toList
  name : WordRun f.name.toList
  number : 0 < f.number
  repeated : f.repeated = decide (f.label = .repeated)

structure Rpc.Spelled (r : Rpc) : Prop where
  name : WordRun r.name.toList
  request : WordRun r.requestType.toList
  response : WordRun r.responseType.toList

structure Service.Spelled (s : Service) : Prop where
  name : WordRun s.name.toList
  rpcs : ∀ r ∈ s.rpcs, r.Spelled

structure Message.Spelled (m : Message) : Prop where
  name : WordRun m.name.toList
  fields : ∀ f ∈ directFields m.elements, f.Spelled

mutual

def MessageElement.messages : MessageElement → List Message
  | .message name elements => ⟨name, elements⟩ :: messagesIn elements
  | _ => []

/-- The messages among the elements, each before those nested in it. -/
def messagesIn : List MessageElement → List Message
  | [] => []
  | e :: es => e.messages ++ messagesIn es

end

/-- All messages of a file, each before those nested in it. -/
def File.allMessages (f : File) : List Message :=
  f.messages.flatMap fun m => m :: messagesIn m.elements

structure File.Spelled (f : File) : Prop where
  messages : ∀ m ∈ f.allMessages, m.Spelled
  services : ∀ s ∈ f.services, s.Spelled

/-! ## Lexemes -/

/-- A lexeme that is a word if it can serve as a name. -/
def Lexeme.Spelled (l : Lexeme) : Prop :=
  l.isWord = true → WordRun l.text.toList

theorem Lexeme.spelled_of_form {l : Lexeme} {source rest : List Char} (h : Form l source rest) :
    l.Spelled := by
  intro hw
  cases h with
  | keyword k h hk =>
    rw [String.toList_ofList]
    exact h.run
  | ident h hk =>
    rw [String.toList_ofList]
    exact h.run
  | _ => cases hw

theorem spelled_of_mem_lexemes {text : String} {t : Tokens} (h : Tokens.ofText text = .ok t) :
    ∀ l ∈ t.lexemes, l.Spelled := by
  intro l hl
  obtain ⟨source, rest, hf⟩ := form_of_mem_lexemes h hl
  exact Lexeme.spelled_of_form hf

/-! ## Parsers -/

namespace Grammar
open Schema.Parser

theorem word_yieldsFrom : YieldsFrom Lexeme.Spelled word fun s => WordRun s.toList := by
  intro ts s rest hl h
  cases ts with
  | nil => cases h
  | cons t ts =>
    simp only [word, satisfy] at h
    split at h
    · next hw =>
      cases h
      exact hl t List.mem_cons_self hw
    · cases h

theorem fieldNumber_yieldsFrom (L : Lexeme → Prop) : YieldsFrom L fieldNumber (0 < ·) := by
  intro ts n rest _ h
  simp only [fieldNumber] at h
  split at h
  · split at h
    · split at h
      · split at h <;> cases h
        assumption
      · cases h
    · cases h
  · cases h

theorem numbering_yieldsFrom (L : Lexeme → Prop) : YieldsFrom L numbering (0 < ·) :=
  .after _ fun _ => (fieldNumber_yieldsFrom L).bind fun _ h => .after _ fun _ => .pure h

theorem field_yieldsFrom : YieldsFrom Lexeme.Spelled field Field.Spelled :=
  .after _ fun _ => word_yieldsFrom.bind fun _ htype => word_yieldsFrom.bind fun _ hname =>
    (numbering_yieldsFrom _).bind fun _ hnumber => .after _ fun _ =>
      .pure ⟨htype, hname, hnumber, rfl⟩

theorem rpcType_yieldsFrom : YieldsFrom Lexeme.Spelled rpcType fun r => WordRun r.2.toList :=
  .after _ fun _ => .after _ fun _ => word_yieldsFrom.bind fun _ h => .after _ fun _ => .pure h

theorem rpc_yieldsFrom : YieldsFrom Lexeme.Spelled rpc Rpc.Spelled :=
  .after _ fun _ => word_yieldsFrom.bind fun _ hname =>
    rpcType_yieldsFrom.bind fun _ hrequest => .after _ fun _ =>
      rpcType_yieldsFrom.bind fun _ hresponse => .after _ fun _ =>
        .pure ⟨hname, hrequest, hresponse⟩

def ServiceElement.Spelled : ServiceElement → Prop
  | .rpc r => r.Spelled
  | .setting _ => True

theorem serviceItem_yieldsFrom :
    YieldsFrom Lexeme.Spelled serviceItem fun o => ∀ e ∈ o, ServiceElement.Spelled e := by
  refine .after _ fun _ => .ite (.after _ fun _ => .pure fun e he => nomatch he) <|
    .ite (.map ?_) <| .ite (.map ?_) (.refuse _)
  · intro ts s rest _ _ e he
    cases he
    trivial
  · intro ts r rest hl hr e he
    cases he
    exact rpc_yieldsFrom hl hr

theorem service_yieldsFrom : YieldsFrom Lexeme.Spelled service Service.Spelled := by
  refine .after _ fun _ => word_yieldsFrom.bind fun name hname =>
    (YieldsFrom.braced serviceItem_yieldsFrom).bind fun elements helements => .pure ⟨hname, ?_⟩
  intro r hr
  obtain ⟨e, he, her⟩ := List.mem_filterMap.1 hr
  cases e with
  | rpc r' =>
    cases her
    exact helements _ he
  | setting s => cases her

/-- What a message that is read so far holds: its own fields, and messages that are nested in it. -/
structure ElementsSpelled (es : List MessageElement) : Prop where
  own : ∀ f ∈ directFields es, f.Spelled
  nested : ∀ m ∈ messagesIn es, m.Spelled

def Entry.Spelled : Entry → Prop
  | .element (.statement (.field f)) => f.Spelled
  | .element (.message _ _) => False
  | .opens name => WordRun name.toList
  | _ => True

theorem entry_yieldsFrom : YieldsFrom Lexeme.Spelled entry Entry.Spelled :=
  .after _ fun _ => .ite (.after _ fun _ => .pure trivial) <|
    .after _ fun _ => .ite
      (.after _ fun _ => word_yieldsFrom.bind fun _ h => .after _ fun _ => .pure h) <|
    .after _ fun _ => .ite (.after _ fun _ => .pure trivial) <|
    .after _ fun _ => .ite (.after _ fun _ => .pure trivial) <|
    .after _ fun _ => .ite (.after _ fun _ => .pure trivial) <|
    .ite (.after _ fun _ => .pure trivial) <|
    .after _ fun _ => .ite (.after _ fun _ => .after _ fun _ => .pure trivial) <|
    .after _ fun _ => .ite (.after _ fun _ => .after _ fun _ => .pure trivial) <|
    .after _ fun _ => .ite (.after _ fun _ => .pure trivial) <|
    .after _ fun _ => .ite (.after _ fun _ => .pure trivial) <|
    .ite (field_yieldsFrom.bind fun _ h => .pure h) (.refuse _)

theorem ElementsSpelled.cons {e : MessageElement} {es : List MessageElement}
    (he : Entry.Spelled (.element e)) (h : ElementsSpelled es) : ElementsSpelled (e :: es) := by
  have other (hd : directFields (e :: es) = directFields es) (hm : e.messages = []) :
      ElementsSpelled (e :: es) := by
    refine ⟨hd ▸ h.own, ?_⟩
    rw [messagesIn, hm]
    exact h.nested
  cases e with
  | statement s =>
    cases s with
    | field f => exact ⟨List.forall_mem_cons.2 ⟨he, h.own⟩, h.nested⟩
    | _ => exact other rfl rfl
  | message name elements => exact he.elim
  | _ => exact other rfl rfl

theorem ElementsSpelled.cons_message {name : String} {inner es : List MessageElement}
    (hn : WordRun name.toList) (hi : ElementsSpelled inner) (h : ElementsSpelled es) :
    ElementsSpelled (.message name inner :: es) := by
  refine ⟨h.own, ?_⟩
  intro m hm
  rw [messagesIn, MessageElement.messages, List.mem_append, List.mem_cons] at hm
  rcases hm with (rfl | hm) | hm
  · exact ⟨hn, hi.own⟩
  · exact hi.nested m hm
  · exact h.nested m hm

theorem elementsRead_spelled {ts rest : List Lexeme} {es : List MessageElement}
    (hl : ∀ l ∈ ts, l.Spelled) (h : ElementsRead ts es rest) : ElementsSpelled es := by
  induction h with
  | done => exact ⟨fun _ h => absurd h List.not_mem_nil, fun _ h => absurd h List.not_mem_nil⟩
  | blank he _ ih => exact ih (forall_mem_rest hl he)
  | element he _ ih => exact .cons (entry_yieldsFrom hl he) (ih (forall_mem_rest hl he))
  | opens he hi hb _ ihInner ih =>
    have inside := forall_mem_rest hl he
    have behind := forall_mem_rest (forall_mem_rest inside (elements_run_eq_ok.2 hi)) hb
    exact .cons_message (entry_yieldsFrom hl he) (ihInner inside) (ih behind)

theorem message_yieldsFrom :
    YieldsFrom Lexeme.Spelled message fun m =>
      WordRun m.name.toList ∧ ElementsSpelled m.elements := by
  have body : YieldsFrom Lexeme.Spelled elements ElementsSpelled := fun _ _ _ hl h =>
    elementsRead_spelled hl (elements_run_eq_ok.1 h)
  exact .after _ fun _ => word_yieldsFrom.bind fun _ hname => .after _ fun _ =>
    body.bind fun _ h => .after _ fun _ => .pure ⟨hname, h⟩

def Declaration.Spelled : Declaration → Prop
  | .message m => WordRun m.name.toList ∧ ElementsSpelled m.elements
  | .service s => s.Spelled
  | _ => True

theorem declaration_yieldsFrom :
    YieldsFrom Lexeme.Spelled declaration fun o => ∀ d ∈ o, Declaration.Spelled d := by
  have some_yieldsFrom {α : Type} {p : Parser α} {f : α → Declaration}
      (h : YieldsFrom Lexeme.Spelled p fun a => Declaration.Spelled (f a)) :
      YieldsFrom Lexeme.Spelled ((some ∘ f) <$> p) fun o => ∀ d ∈ o, Declaration.Spelled d := by
    refine .map ?_
    intro ts a rest hl ha d hd
    cases hd
    exact h hl ha
  have other {α : Type} (p : Parser α) {f : α → Declaration}
      (h : ∀ a, Declaration.Spelled (f a)) :=
    some_yieldsFrom (p := p) fun _ a _ _ _ => h a
  refine .after _ ?_
  intro k
  split
  · exact other _ fun _ => trivial
  · exact other _ fun _ => trivial
  · exact other _ fun _ => trivial
  · exact other _ fun _ => trivial
  · exact other _ fun _ => trivial
  · exact some_yieldsFrom message_yieldsFrom
  · exact other _ fun _ => trivial
  · exact some_yieldsFrom service_yieldsFrom
  · exact other _ fun _ => trivial
  · exact .after _ fun _ => .pure fun d hd => nomatch hd
  · exact .refuse _

theorem spelled_of_file {ts : List Lexeme} {f : File} (hl : ∀ l ∈ ts, l.Spelled)
    (h : file ts = .ok f) : f.Spelled := by
  have hd := forall_mem_of_file declaration_yieldsFrom hl h
  constructor
  · intro m hm
    obtain ⟨top, htop, hm⟩ := List.mem_flatMap.1 hm
    obtain ⟨d, hmem, hdm⟩ := List.mem_filterMap.1 htop
    cases d with
    | message m' =>
      cases hdm
      obtain ⟨hname, hs⟩ : WordRun top.name.toList ∧ ElementsSpelled top.elements := hd _ hmem
      rcases List.mem_cons.1 hm with rfl | hm
      · exact ⟨hname, hs.own⟩
      · exact hs.nested m hm
    | _ => cases hdm
  · intro s hs
    obtain ⟨d, hmem, hds⟩ := List.mem_filterMap.1 hs
    cases d with
    | service s' =>
      cases hds
      exact hd _ hmem
    | _ => cases hds

end Grammar

theorem spelled_of_ofText {text : String} {f : File} (h : File.ofText text = .ok f) :
    f.Spelled := by
  obtain ⟨t, ht, hf⟩ := tokens_of_ofText h
  exact Grammar.spelled_of_file (spelled_of_mem_lexemes ht) hf

end ServiceScaffold.Schema

import ServiceScaffold.Proofs.Schema.Turns

/-!
# What the parsers blame

A fault says how many lexemes remain from the one that is blamed. It is one of those that the
parser was given, or the end of the input, and the cause is about that very lexeme
(`Fault.BlamedIn`). Each way of putting parsers together keeps this, and so do the parsers of the
grammar up to those of whole files (`file_blamedIn`).
-/
namespace ServiceScaffold.Schema

/-- The cause is about the lexeme: it shows it, or its text. -/
def Cause.Names : Cause → Lexeme → Prop
  | .unterminatedString, _ => False
  | .unexpected found _, l => found = l
  | .expected _ found, l => found = l
  | .expectedSettingName found, l => found = l
  | .expectedConstant found, l => found = l
  | .expectedRpcEnd _ found, l => found = l
  | .invalidNumber literal, l => l.kind = .number ∧ l.text = literal
  | .nonPositiveNumber literal, l => l.kind = .number ∧ l.text = literal
  | .unfinishedStatement, l => l = .endOfInput
  | .unclosed bracket, l => l.text = bracket

/-- The lexeme that is blamed has what the fault says behind it, and its cause names it. -/
def Fault.BlamedIn (fault : Fault) (ts : List Lexeme) : Prop :=
  ∃ us, us <:+ ts ∧ us.length = fault.remaining ∧ fault.cause.Names (Parser.head us)

theorem Fault.BlamedIn.of_suffix {fault : Fault} {mid ts : List Lexeme} (h : fault.BlamedIn mid)
    (hs : mid <:+ ts) : fault.BlamedIn ts := by
  obtain ⟨us, hu, hl, hn⟩ := h
  exact ⟨us, hu.trans hs, hl, hn⟩

namespace Parser
open Grammar

variable {α β : Type} {p : Parser α}

/-! ## Ways of putting parsers together -/

def Blames (p : Parser α) : Prop :=
  ∀ ⦃ts fault⦄, p.run ts = .error fault → fault.BlamedIn ts

theorem Blames.pure (a : α) : Blames (Pure.pure a : Parser α) := by
  intro ts fault h
  cases h

theorem Blames.look (f : List Lexeme → α) : Blames (look f) := by
  intro ts fault h
  cases h

theorem Blames.bind {f : α → Parser β} (hp : Blames p) (hf : ∀ a, Blames (f a)) :
    Blames (p >>= f) := by
  intro ts fault h
  rw [run_bind] at h
  split at h
  · next he =>
    cases h
    exact hp he
  · next a mid ha => exact (hf a h).of_suffix (p.suffix ha)

theorem Blames.map {f : α → β} (h : Blames p) : Blames (f <$> p) := by
  rw [← bind_pure_comp]
  exact h.bind fun a => .pure (f a)

theorem Blames.ite {c : Prop} [Decidable c] {q : Parser α} (hp : Blames p) (hq : Blames q) :
    Blames (if c then p else q) := by
  split
  · exact hp
  · exact hq

theorem Blames.refuse {cause : Lexeme → Cause} (hn : ∀ l, (cause l).Names l) :
    Blames (Parser.refuse cause : Parser α) := by
  intro ts fault h
  cases h
  exact ⟨ts, List.suffix_refl ts, rfl, hn _⟩

theorem blames_of_kind {f : Kind → Parser α} (h : ∀ kind, Blames (f kind)) :
    Blames (Parser.look (kindAt · 0) >>= f) :=
  (Blames.look _).bind h

/-! ## Lexemes -/

theorem satisfy_blames (wanted : Kind → Bool) {cause : Lexeme → Cause}
    (hn : ∀ l, (cause l).Names l) : Blames (satisfy wanted cause) := by
  intro ts fault h
  refine ⟨ts, List.suffix_refl ts, ?_⟩
  cases ts with
  | nil =>
    cases h
    exact ⟨rfl, hn _⟩
  | cons t ts =>
    simp only [satisfy] at h
    split at h
    · cases h
    · cases h
      exact ⟨rfl, hn t⟩

theorem expect_blames (k : Kind) : Blames (expect k) := satisfy_blames _ fun _ => rfl

theorem keyword_blames (k : Keyword) : Blames (keyword k) := expect_blames _

theorem delimiter_blames (d : Delimiter) : Blames (delimiter d) := expect_blames _

theorem word_blames : Blames word := satisfy_blames _ fun _ => rfl

theorem fieldNumber_blames : Blames fieldNumber := by
  intro ts fault h
  refine ⟨ts, List.suffix_refl ts, ?_⟩
  cases ts with
  | nil =>
    cases h
    exact ⟨rfl, rfl⟩
  | cons t ts =>
    simp only [fieldNumber] at h
    split at h
    · next hk =>
      split at h
      · split at h <;> cases h
        exact ⟨rfl, hk, rfl⟩
      · cases h
        exact ⟨rfl, hk, rfl⟩
    · cases h
      exact ⟨rfl, rfl⟩

theorem textWhile_blames (q : Lexeme → Bool) : Blames (textWhile q) := by
  intro ts fault h
  cases h

theorem statementText_blames : Blames statementText := by
  intro ts fault h
  simp only [statementText] at h
  split at h <;> cases h
  exact ⟨[], List.nil_suffix, rfl, rfl⟩

theorem balanced_blames (opening closing : Delimiter) : Blames (balanced opening closing) := by
  intro ts fault h
  refine ⟨ts, List.suffix_refl ts, ?_⟩
  cases ts with
  | nil =>
    cases h
    exact ⟨rfl, rfl⟩
  | cons t ts =>
    simp only [balanced] at h
    split at h
    · split at h <;> cases h
      exact ⟨rfl, rfl⟩
    · cases h
      exact ⟨rfl, rfl⟩

/-! ## Loops -/

/-- A loop blames what one of its turns blames. -/
theorem blamedIn_of_once {stop : List Lexeme → Bool} {item : Parser (Option α)}
    {run : List Lexeme → Except Fault (List α × List Lexeme)} {ts : List Lexeme} {fault : Fault}
    (hi : ∀ fault, item.run ts = .error fault → fault.BlamedIn ts)
    (hr : ∀ o rest, item.run ts = .ok (o, rest) → run rest = .error fault → fault.BlamedIn rest)
    (h : (itemLoop stop item).once run ts = .error fault) : fault.BlamedIn ts := by
  by_cases hd : (ts.isEmpty || stop ts) = true
  · rw [once_of_stop hd] at h
    cases h
  · cases hrun : item.run ts with
    | error e =>
      rw [once_of_error hd hrun] at h
      cases h
      exact hi _ hrun
    | ok r =>
      obtain ⟨o, rest⟩ := r
      rw [once_of_run hd hrun] at h
      cases he : run rest with
      | error e =>
        rw [he] at h
        cases h
        exact (hr o rest hrun he).of_suffix (item.suffix hrun)
      | ok r =>
        rw [he] at h
        cases h

theorem items_blames {stop : List Lexeme → Bool} {item : Parser (Option α)} {hc : Consuming item}
    (hi : Blames item) : Blames (items stop item hc) := by
  intro ts fault h
  induction hn : ts.length using Nat.strongRecOn generalizing ts with
  | ind n ih =>
    have honce := ((itemLoop_runs stop hc).unrolls ts).symm.trans h
    refine blamedIn_of_once (fun _ he => hi he) ?_ honce
    intro o rest hrun he
    exact ih _ (hn ▸ hc hrun) he rfl

theorem braced_blames {item : Parser (Option α)} {hc : Consuming item} (hi : Blames item) :
    Blames (braced item hc) :=
  (delimiter_blames _).bind fun _ => (items_blames hi).bind fun _ =>
    (delimiter_blames _).bind fun _ => .pure _

end Parser

namespace Grammar
open Schema.Parser

/-! ## Constants and fields -/

theorem literal_blames : Blames literal :=
  (expect_blames _).bind fun _ => (textWhile_blames _).bind fun _ => .pure _

theorem settingBase_blames : Blames settingBase := by
  refine blames_of_kind fun kind => ?_
  split
  · exact (delimiter_blames _).bind fun _ => word_blames.bind fun _ =>
      (delimiter_blames _).bind fun _ => .pure _
  · exact satisfy_blames _ fun _ => rfl

theorem settingName_blames : Blames settingName :=
  settingBase_blames.bind fun _ => (textWhile_blames _).bind fun _ => .pure _

theorem constant_blames : Blames constant := by
  refine (Blames.look _).bind fun _ => .ite ?_ ?_
  · exact (expect_blames _).bind fun _ => word_blames.bind fun _ => .pure _
  · refine blames_of_kind fun kind => ?_
    split
    · exact literal_blames
    · exact balanced_blames ..
    · exact satisfy_blames _ fun _ => rfl

theorem setting_blames : Blames setting :=
  (keyword_blames _).bind fun _ => settingName_blames.bind fun _ =>
    (delimiter_blames _).bind fun _ => constant_blames.bind fun _ =>
    (delimiter_blames _).bind fun _ => .pure _

theorem fieldSettings_blames : Blames fieldSettings :=
  blames_of_kind fun _ => .ite ((balanced_blames ..).bind fun _ => .pure _) (.pure _)

theorem numbering_blames : Blames numbering :=
  (delimiter_blames _).bind fun _ => fieldNumber_blames.bind fun _ =>
    fieldSettings_blames.bind fun _ => .pure _

theorem labelIf_blames (ahead : List Lexeme → Option Label) : Blames (labelIf ahead) := by
  refine (Blames.look _).bind ?_
  intro o
  cases o with
  | none => exact .pure _
  | some label => exact word_blames.bind fun _ => .pure _

theorem field_blames : Blames field :=
  (labelIf_blames _).bind fun _ => word_blames.bind fun _ => word_blames.bind fun _ =>
    numbering_blames.bind fun _ => (delimiter_blames _).bind fun _ => .pure _

theorem mapField_blames : Blames mapField :=
  (keyword_blames _).bind fun _ => (delimiter_blames _).bind fun _ => word_blames.bind fun _ =>
    (delimiter_blames _).bind fun _ => word_blames.bind fun _ => (delimiter_blames _).bind fun _ =>
    word_blames.bind fun _ => numbering_blames.bind fun _ =>
    (delimiter_blames _).bind fun _ => .pure _

theorem group_blames : Blames group :=
  (labelIf_blames _).bind fun _ => (keyword_blames _).bind fun _ => word_blames.bind fun _ =>
    numbering_blames.bind fun _ => (balanced_blames ..).bind fun _ => .pure _

/-! ## Blocks -/

theorem blank_blames {α : Type} : Blames (blank : Parser (Option α)) :=
  (delimiter_blames _).bind fun _ => .pure _

theorem oneofItem_blames : Blames oneofItem :=
  blames_of_kind fun _ => .ite blank_blames <| .ite (setting_blames.bind fun _ => .pure _) <|
    (Blames.look _).bind fun _ => .ite (group_blames.bind fun _ => .pure _) <|
    .ite field_blames.map (.refuse fun _ => rfl)

theorem enumItem_blames : Blames enumItem :=
  blames_of_kind fun _ => .ite blank_blames <| .ite (setting_blames.bind fun _ => .pure _) <|
    (Blames.look _).bind fun _ =>
    .ite ((keyword_blames _).bind fun _ => statementText_blames.bind fun _ => .pure _) <|
    .ite (word_blames.bind fun _ => (delimiter_blames _).bind fun _ =>
      (expect_blames _).bind fun _ => fieldSettings_blames.bind fun _ =>
      (delimiter_blames _).bind fun _ => .pure _) (.refuse fun _ => rfl)

theorem rpcItem_blames : Blames rpcItem :=
  blames_of_kind fun _ => .ite setting_blames.map <| .ite blank_blames (.refuse fun _ => rfl)

theorem oneof_blames : Blames oneof :=
  (keyword_blames _).bind fun _ => word_blames.bind fun _ =>
    (braced_blames oneofItem_blames).bind fun _ => .pure _

theorem enumeration_blames : Blames enumeration :=
  (keyword_blames _).bind fun _ => word_blames.bind fun _ =>
    (braced_blames enumItem_blames).bind fun _ => .pure _

theorem extend_blames : Blames extend :=
  (keyword_blames _).bind fun _ => word_blames.bind fun _ =>
    (balanced_blames ..).bind fun _ => .pure _

/-! ## Messages -/

theorem entry_blames : Blames entry :=
  blames_of_kind fun _ => .ite ((delimiter_blames _).bind fun _ => .pure _) <|
    (Blames.look _).bind fun _ => .ite ((keyword_blames _).bind fun _ =>
      word_blames.bind fun _ => (delimiter_blames _).bind fun _ => .pure _) <|
    (Blames.look _).bind fun _ => .ite (enumeration_blames.bind fun _ => .pure _) <|
    (Blames.look _).bind fun _ => .ite (oneof_blames.bind fun _ => .pure _) <|
    (Blames.look _).bind fun _ => .ite (extend_blames.bind fun _ => .pure _) <|
    .ite (setting_blames.bind fun _ => .pure _) <| (Blames.look _).bind fun _ =>
    .ite ((keyword_blames _).bind fun _ => statementText_blames.bind fun _ => .pure _) <|
    (Blames.look _).bind fun _ =>
    .ite ((keyword_blames _).bind fun _ => statementText_blames.bind fun _ => .pure _) <|
    (Blames.look _).bind fun _ => .ite (mapField_blames.bind fun _ => .pure _) <|
    (Blames.look _).bind fun _ => .ite (group_blames.bind fun _ => .pure _) <|
    .ite (field_blames.bind fun _ => .pure _) (.refuse fun _ => rfl)

/-- A turn of the loop calls it only for what stands behind the brace that opens. -/
theorem elements_blames : Blames elements := by
  intro ts fault h
  induction hn : ts.length using Nat.strongRecOn generalizing ts fault with
  | ind n ih =>
    refine blamedIn_of_once ?_ ?_ ((elements_unrolls ts).symm.trans h)
    · intro fault ht
      rw [elementTurn, run_bind] at ht
      split at ht
      · next he =>
        cases ht
        exact entry_blames he
      · next e mid he =>
        refine Fault.BlamedIn.of_suffix ?_ (entry.suffix he)
        cases e with
        | blank => cases ht
        | element e => cases ht
        | opens name =>
          dsimp only at ht
          rw [run_bind] at ht
          split at ht
          · next hi =>
            cases ht
            exact ih _ (hn ▸ entry_consuming he) hi rfl
          · next inner after hi =>
            have hb := (delimiter_blames .rbrace).bind
              (f := fun _ => pure (some (MessageElement.message name inner))) fun _ => .pure _
            exact (hb ht).of_suffix (elements.suffix hi)
    · intro o rest hrun he
      exact ih _ (hn ▸ elementTurn_consuming hrun) he rfl

theorem message_blames : Blames message :=
  (keyword_blames _).bind fun _ => word_blames.bind fun _ => (delimiter_blames _).bind fun _ =>
    elements_blames.bind fun _ => (delimiter_blames _).bind fun _ => .pure _

/-! ## Services -/

theorem streamMark_blames : Blames streamMark :=
  (Blames.look _).bind fun _ => .ite (word_blames.bind fun _ => .pure _) (.pure _)

theorem rpcType_blames : Blames rpcType :=
  (delimiter_blames _).bind fun _ => streamMark_blames.bind fun _ => word_blames.bind fun _ =>
    (delimiter_blames _).bind fun _ => .pure _

theorem rpcSettings_blames (rpc : String) : Blames (rpcSettings rpc) := by
  refine blames_of_kind fun kind => ?_
  split
  · exact (delimiter_blames _).bind fun _ => .pure _
  · exact braced_blames rpcItem_blames
  · exact .refuse fun _ => rfl

theorem rpc_blames : Blames rpc :=
  (keyword_blames _).bind fun _ => word_blames.bind fun _ =>
    rpcType_blames.bind fun ⟨_, _⟩ => (keyword_blames _).bind fun _ =>
    rpcType_blames.bind fun ⟨_, _⟩ => (rpcSettings_blames _).bind fun _ => .pure _

theorem serviceItem_blames : Blames serviceItem :=
  blames_of_kind fun _ => .ite blank_blames <| .ite setting_blames.map <|
    .ite rpc_blames.map (.refuse fun _ => rfl)

theorem service_blames : Blames service :=
  (keyword_blames _).bind fun _ => word_blames.bind fun _ =>
    (braced_blames serviceItem_blames).bind fun _ => .pure _

/-! ## Files -/

theorem dialect_blames : Blames dialect :=
  word_blames.bind fun _ => (delimiter_blames _).bind fun _ => literal_blames.bind fun _ =>
    (delimiter_blames _).bind fun _ => .pure _

theorem package_blames : Blames package :=
  (keyword_blames _).bind fun _ => word_blames.bind fun _ =>
    (delimiter_blames _).bind fun _ => .pure _

theorem importMark_blames : Blames importMark :=
  (Blames.look _).bind fun _ => .ite (.pure _) (word_blames.bind fun _ => .pure _)

theorem importing_blames : Blames importing :=
  (keyword_blames _).bind fun _ => importMark_blames.bind fun _ => literal_blames.bind fun _ =>
    (delimiter_blames _).bind fun _ => .pure _

theorem declaration_blames : Blames declaration := by
  refine blames_of_kind fun kind => ?_
  split
  · exact dialect_blames.map
  · exact dialect_blames.map
  · exact package_blames.map
  · exact importing_blames.map
  · exact setting_blames.map
  · exact message_blames.map
  · exact enumeration_blames.map
  · exact service_blames.map
  · exact extend_blames.map
  · exact blank_blames
  · exact .refuse fun _ => rfl

theorem file_blamedIn {ts : List Lexeme} {fault : Fault} (h : Grammar.file ts = .error fault) :
    fault.BlamedIn ts := by
  have hb : Blames declarations := items_blames declaration_blames
  unfold Grammar.file at h
  cases hr : declarations.run ts with
  | error e =>
    rw [hr] at h
    cases h
    exact hb hr
  | ok r =>
    rw [hr] at h
    cases h

end Grammar

end ServiceScaffold.Schema

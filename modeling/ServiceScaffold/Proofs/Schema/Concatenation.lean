import ServiceScaffold.Proofs.Lexical.Below
import ServiceScaffold.Proofs.Schema.Lookahead

/-!
# Files one below another

Each parser of the grammar looks as far ahead as its lemma says, and behind a declaration nothing has
to follow (`declaration_steady`). A file may therefore be read up to where one of its declarations
ends, and the rest on its own (`file_append`), which with the tokens of one text below another gives
the reading of the two together (`ofText_below_ofText`).
-/
namespace ServiceScaffold.Schema
namespace Grammar
open Schema.Parser

/-! ## What lies ahead -/

section Ahead

variable {ts : List Lexeme} {i k : Nat}

theorem kindAt_append (h : i < ts.length) (more : List Lexeme) :
    kindAt (ts ++ more) i = kindAt ts i := by
  simp only [kindAt, List.getElem?_append_left h]

theorem kindAt_looksAt (i : Nat) : LooksAt (i + 1) (kindAt · i) :=
  fun _ more h => kindAt_append h more

theorem startsBlock_looksAt (k : Keyword) : LooksAt 3 (startsBlock k) := by
  intro ts more h
  simp only [startsBlock, kindAt_append (show 0 < ts.length by omega),
    kindAt_append (show 1 < ts.length by omega), kindAt_append (show 2 < ts.length by omega)]

theorem startsGroup_looksAt : LooksAt 4 startsGroup := by
  intro ts more h
  have at0 := kindAt_append (show 0 < ts.length by omega) more
  have at1 := kindAt_append (show 1 < ts.length by omega) more
  have at2 := kindAt_append (show 2 < ts.length by omega) more
  have at3 := kindAt_append (show 3 < ts.length by omega) more
  simp only [startsGroup, at0]
  split <;> simp only [at0, at1, at2, at3]

theorem fieldLabel_looksAt : LooksAt 3 fieldLabel := by
  intro ts more h
  simp only [fieldLabel, kindAt_append (show 0 < ts.length by omega),
    kindAt_append (show 1 < ts.length by omega), kindAt_append (show 2 < ts.length by omega)]

theorem startsStream_looksAt : LooksAt 2 startsStream := by
  intro ts more h
  simp only [startsStream, kindAt_append (show 0 < ts.length by omega),
    kindAt_append (show 1 < ts.length by omega)]

theorem isSignBeforeWord_looksAt : LooksAt 2 isSignBeforeWord := by
  intro ts more h
  match ts with
  | _ :: _ :: _ => rfl
  | [_] => exact absurd h (Nat.not_succ_le_self 1)
  | [] => exact absurd h (by decide)

theorem importKind_looksAt : LooksAt 1 importKind := by
  intro ts more h
  cases ts with
  | nil => exact absurd h (Nat.not_succ_le_zero 0)
  | cons => rfl

end Ahead

/-! ## Constants and fields -/

/-- What follows is decided by the kind of the lexeme that comes next. -/
theorem steady_of_kind {α : Type} {f : Kind → Parser α} {n j : Nat} (hk : 1 ≤ n + j)
    (h : ∀ kind, Steady n j (f kind)) : Steady n j (look (kindAt · 0) >>= f) :=
  .weaken (by omega) <| (Steady.look (kindAt_looksAt 0)).bind h

theorem literal_steady : Steady 1 1 literal :=
  .weaken (by decide) <| (expect_steady _).bind fun _ => (textWhile_steady _).bind fun _ => .pure _

theorem settingBase_steady : Steady 1 0 settingBase := by
  refine steady_of_kind (by decide) fun kind => ?_
  split
  · exact .weaken (by decide) <| (delimiter_steady _).bind fun _ => word_steady.bind fun _ =>
      (delimiter_steady _).bind fun _ => .pure _
  · exact satisfy_steady ..

theorem settingName_steady : Steady 1 1 settingName :=
  .weaken (by decide) <| settingBase_steady.bind fun _ => (textWhile_steady _).bind fun _ => .pure _

theorem constant_steady : Steady 1 1 constant := by
  refine .weaken (by decide) <| (Steady.look isSignBeforeWord_looksAt).bind fun _ =>
    .ite (n := 2) (k := 0) (m := 1) (j := 1) ?_ ?_
  · exact .weaken (by decide) <| (expect_steady _).bind fun _ => word_steady.bind fun _ => .pure _
  · refine steady_of_kind (by decide) fun kind => ?_
    split
    · exact literal_steady
    · exact .weaken (by decide) (balanced_steady ..)
    · exact .weaken (by decide) (satisfy_steady ..)

theorem setting_steady : Steady 5 0 setting :=
  .weaken (by decide) <| (keyword_steady _).bind fun _ => settingName_steady.bind fun _ =>
    (delimiter_steady _).bind fun _ => constant_steady.bind fun _ =>
    (delimiter_steady _).bind fun _ => .pure _

theorem fieldSettings_steady : Steady 0 1 fieldSettings :=
  steady_of_kind (by decide) fun _ =>
    .weaken (by decide) <| .ite ((balanced_steady ..).bind fun _ => .pure _) (.pure _)

theorem numbering_steady : Steady 2 1 numbering :=
  .weaken (by decide) <| (delimiter_steady _).bind fun _ => fieldNumber_steady.bind fun _ =>
    fieldSettings_steady.bind fun _ => .pure _

theorem labelIf_steady {ahead : List Lexeme → Option Label} {k : Nat} (h : LooksAt k ahead) :
    Steady 0 k (labelIf ahead) := by
  refine .weaken (by omega) <| (Steady.look h).bind (m := 0) (j := 0) ?_
  intro o
  cases o with
  | none => exact .pure _
  | some label => exact .weaken (by decide) <| word_steady.bind fun _ => .pure _

theorem field_steady : Steady 5 0 field :=
  .weaken (by decide) <| (labelIf_steady fieldLabel_looksAt).bind fun _ => word_steady.bind fun _ =>
    word_steady.bind fun _ => numbering_steady.bind fun _ =>
    (delimiter_steady _).bind fun _ => .pure _

theorem mapField_steady : Steady 5 0 mapField :=
  .weaken (by decide) <| (keyword_steady _).bind fun _ => (delimiter_steady _).bind fun _ =>
    word_steady.bind fun _ => (delimiter_steady _).bind fun _ => word_steady.bind fun _ =>
    (delimiter_steady _).bind fun _ => word_steady.bind fun _ => numbering_steady.bind fun _ =>
    (delimiter_steady _).bind fun _ => .pure _

theorem group_steady : Steady 4 0 group :=
  .weaken (by decide) <| (labelIf_steady (kindAt_looksAt 0 |>.comp labelOf?)).bind fun _ =>
    (keyword_steady _).bind fun _ => word_steady.bind fun _ => numbering_steady.bind fun _ =>
    (balanced_steady ..).bind fun _ => .pure _

/-! ## Blocks -/

theorem blank_steady {α : Type} : Steady 1 0 (blank : Parser (Option α)) :=
  (delimiter_steady _).bind fun _ => .pure _

theorem oneofItem_steady : Steady 1 0 oneofItem :=
  steady_of_kind (by decide) fun _ => .weaken (by decide) <| .ite blank_steady <|
    .ite (setting_steady.bind fun _ => .pure _) <|
    (Steady.look startsGroup_looksAt).bind fun _ => .ite (group_steady.bind fun _ => .pure _) <|
    .ite field_steady.map (.refuse 5 0 _)

theorem enumItem_steady : Steady 1 0 enumItem :=
  steady_of_kind (by decide) fun _ => .weaken (by decide) <| .ite blank_steady <|
    .ite (setting_steady.bind fun _ => .pure _) <|
    (Steady.look (kindAt_looksAt 1)).bind fun _ =>
    .ite ((keyword_steady _).bind fun _ => statementText_steady.bind fun _ => .pure _) <|
    .ite (word_steady.bind fun _ => (delimiter_steady _).bind fun _ =>
      (expect_steady _).bind fun _ => fieldSettings_steady.bind fun _ =>
      (delimiter_steady _).bind fun _ => .pure _) (.refuse 5 0 _)

theorem rpcItem_steady : Steady 1 0 rpcItem :=
  steady_of_kind (by decide) fun _ => .weaken (by decide) <| .ite setting_steady.map <|
    .ite blank_steady (.refuse 5 0 _)

theorem oneof_steady : Steady 4 0 oneof :=
  .weaken (by decide) <| (keyword_steady _).bind fun _ => word_steady.bind fun _ =>
    (braced_steady <| .weaken (by decide) oneofItem_steady).bind fun _ => .pure _

theorem enumeration_steady : Steady 4 0 enumeration :=
  .weaken (by decide) <| (keyword_steady _).bind fun _ => word_steady.bind fun _ =>
    (braced_steady <| .weaken (by decide) enumItem_steady).bind fun _ => .pure _

theorem extend_steady : Steady 3 0 extend :=
  .weaken (by decide) <| (keyword_steady _).bind fun _ => word_steady.bind fun _ =>
    (balanced_steady ..).bind fun _ => .pure _

/-! ## Messages -/

theorem entry_steady : Steady 1 1 entry :=
  steady_of_kind (by decide) fun _ => .weaken (by decide) <|
    .ite ((delimiter_steady _).bind fun _ => .pure _) <|
    (Steady.look (startsBlock_looksAt _)).bind fun _ => .ite ((keyword_steady _).bind fun _ =>
      word_steady.bind fun _ => (delimiter_steady _).bind fun _ => .pure _) <|
    (Steady.look (startsBlock_looksAt _)).bind fun _ =>
    .ite (enumeration_steady.bind fun _ => .pure _) <|
    (Steady.look (startsBlock_looksAt _)).bind fun _ =>
    .ite (oneof_steady.bind fun _ => .pure _) <|
    (Steady.look (startsBlock_looksAt _)).bind fun _ =>
    .ite (extend_steady.bind fun _ => .pure _) <|
    .ite (setting_steady.bind fun _ => .pure _) <|
    (Steady.look (kindAt_looksAt 2)).bind fun _ =>
    .ite ((keyword_steady _).bind fun _ => statementText_steady.bind fun _ => .pure _) <|
    (Steady.look (kindAt_looksAt 1)).bind fun _ =>
    .ite ((keyword_steady _).bind fun _ => statementText_steady.bind fun _ => .pure _) <|
    (Steady.look (kindAt_looksAt 1)).bind fun _ =>
    .ite (mapField_steady.bind fun _ => .pure _) <|
    (Steady.look startsGroup_looksAt).bind fun _ =>
    .ite (group_steady.bind fun _ => .pure _) <|
    .ite (field_steady.bind fun _ => .pure _) (.refuse 5 0 _)

theorem length_le_of_elementsRead {ts rest : List Lexeme} {es : List MessageElement}
    (h : ElementsRead ts es rest) : rest.length ≤ ts.length :=
  length_le (elements_run_eq_ok.2 h)

theorem elementsRead_append {ts rest : List Lexeme} {es : List MessageElement}
    (h : ElementsRead ts es rest) (hl : 1 ≤ rest.length) (more : List Lexeme) :
    ElementsRead (ts ++ more) es (rest ++ more) := by
  induction h with
  | done hd => exact .done (by rw [atBodyEnd_looksAt _ _ hl, hd])
  | blank he hr ih =>
    have hmid := length_le_of_elementsRead hr
    exact .blank (entry_steady.stays he (by omega) more) (ih hl)
  | element he hr ih =>
    have hmid := length_le_of_elementsRead hr
    exact .element (entry_steady.stays he (by omega) more) (ih hl)
  | opens he hi hb hr ihInner ih =>
    have hmid := delimiter_consuming _ hb
    have hinside := length_le_of_elementsRead hi
    exact .opens (entry_steady.stays he (by omega) more) (ihInner (by omega))
      ((delimiter_steady _).stays hb (Nat.zero_le _) more) (ih hl)

theorem elementsFrom_blames {ts : List Lexeme} {fault : Fault}
    (h : elementsFrom ts = .error fault) : fault.remaining ≤ ts.length := by
  induction hn : ts.length using Nat.strongRecOn generalizing ts with
  | ind n ih =>
    have behind : ∀ {mid : List Lexeme}, mid.length < n → elementsFrom mid = .error fault →
        fault.remaining ≤ n :=
      fun hl hr => Nat.le_trans (ih _ hl hr rfl) (Nat.le_of_lt hl)
    rw [elementsFrom] at h
    split at h
    · cases h
    · split at h
      · next he =>
        cases h
        exact hn ▸ entry_steady.blames he
      · next he =>
        split at h <;> cases h
        exact behind (hn ▸ entry_consuming he) ‹_›
      · next he =>
        split at h <;> cases h
        exact behind (hn ▸ entry_consuming he) ‹_›
      · next inside he =>
        have hl := hn ▸ entry_consuming he
        split at h
        · cases h
          exact behind hl ‹_›
        · next inner mid hmid hi =>
          have hm : mid.length ≤ inside.length := hmid.length_le
          split at h
          · next hb =>
            cases h
            have := (delimiter_steady _).blames hb
            omega
          · next hb =>
            split at h <;> cases h
            exact behind (Nat.lt_trans (delimiter_consuming _ hb) (by omega)) ‹_›

theorem elements_steady : Steady 0 1 elements where
  takes h := length_le h
  stays h hl more := elements_run_eq_ok.2 (elementsRead_append (elements_run_eq_ok.1 h) hl more)
  blames := by
    intro ts fault h
    simp only [elements] at h
    split at h <;> cases h
    exact elementsFrom_blames ‹_›

theorem message_steady : Steady 4 0 message :=
  .weaken (by decide) <| (keyword_steady _).bind fun _ => word_steady.bind fun _ =>
    (delimiter_steady _).bind fun _ => elements_steady.bind fun _ =>
    (delimiter_steady _).bind fun _ => .pure _

/-! ## Services -/

theorem streamMark_steady : Steady 0 2 streamMark :=
  .weaken (by decide) <| (Steady.look startsStream_looksAt).bind fun _ =>
    .ite (word_steady.bind fun _ => .pure _) (.pure _)

theorem rpcType_steady : Steady 3 0 rpcType :=
  .weaken (by decide) <| (delimiter_steady _).bind fun _ => streamMark_steady.bind fun _ =>
    word_steady.bind fun _ => (delimiter_steady _).bind fun _ => .pure _

theorem rpcSettings_steady (rpc : String) : Steady 1 0 (rpcSettings rpc) := by
  refine steady_of_kind (by decide) fun kind => ?_
  split
  · exact .weaken (by decide) <| (delimiter_steady _).bind fun _ => .pure _
  · exact .weaken (by decide) <| braced_steady <| .weaken (by decide) rpcItem_steady
  · exact .refuse ..

theorem rpc_steady : Steady 10 0 rpc :=
  .weaken (by decide) <| (keyword_steady _).bind fun _ => word_steady.bind fun _ =>
    rpcType_steady.bind fun ⟨_, _⟩ => (keyword_steady _).bind fun _ =>
    rpcType_steady.bind fun ⟨_, _⟩ => (rpcSettings_steady _).bind fun _ => .pure _

theorem serviceItem_steady : Steady 1 0 serviceItem :=
  steady_of_kind (by decide) fun _ => .weaken (by decide) <|
    .ite blank_steady <| .ite setting_steady.map <|
    .ite rpc_steady.map (.refuse 5 0 _)

theorem service_steady : Steady 4 0 service :=
  .weaken (by decide) <| (keyword_steady _).bind fun _ => word_steady.bind fun _ =>
    (braced_steady <| .weaken (by decide) serviceItem_steady).bind fun _ => .pure _

/-! ## Files -/

theorem dialect_steady : Steady 4 0 dialect :=
  .weaken (by decide) <| word_steady.bind fun _ => (delimiter_steady _).bind fun _ =>
    literal_steady.bind fun _ => (delimiter_steady _).bind fun _ => .pure _

theorem package_steady : Steady 3 0 package :=
  .weaken (by decide) <| (keyword_steady _).bind fun _ => word_steady.bind fun _ =>
    (delimiter_steady _).bind fun _ => .pure _

theorem importMark_steady : Steady 0 1 importMark :=
  .weaken (by decide) <| (Steady.look importKind_looksAt).bind fun _ =>
    .ite (.pure _) (word_steady.bind fun _ => .pure _)

theorem importing_steady : Steady 3 0 importing :=
  .weaken (by decide) <| (keyword_steady _).bind fun _ => importMark_steady.bind fun _ =>
    literal_steady.bind fun _ => (delimiter_steady _).bind fun _ => .pure _

theorem declaration_steady : Steady 1 0 declaration := by
  refine steady_of_kind (by decide) fun kind => ?_
  split
  · exact .weaken (by decide) dialect_steady.map
  · exact .weaken (by decide) dialect_steady.map
  · exact .weaken (by decide) package_steady.map
  · exact .weaken (by decide) importing_steady.map
  · exact .weaken (by decide) setting_steady.map
  · exact .weaken (by decide) message_steady.map
  · exact .weaken (by decide) enumeration_steady.map
  · exact .weaken (by decide) service_steady.map
  · exact .weaken (by decide) extend_steady.map
  · exact blank_steady
  · exact .refuse ..

/-- The declarations of one file are read first, and nothing of what follows them shows. -/
theorem file_append {ts : List Lexeme} {f : File} (h : Grammar.file ts = .ok f)
    (more : List Lexeme) :
    Grammar.file (ts ++ more) = (Grammar.file more).map (f ++ ·) := by
  unfold Grammar.file at h ⊢
  cases hr : declarations.run ts with
  | error e => rw [hr] at h; cases h
  | ok r =>
    rw [hr] at h
    cases h
    have happend : declarations.run (ts ++ more) =
        (declarations.run more).map fun (bs, rest) => (r.1 ++ bs, rest) :=
      itemsFrom_append declaration_steady (itemsFrom_eq_ok.1 hr) more
    rw [happend]
    cases declarations.run more <;> rfl

theorem file_blames {ts : List Lexeme} {fault : Fault} (h : Grammar.file ts = .error fault) :
    fault.remaining ≤ ts.length := by
  unfold Grammar.file at h
  cases hr : declarations.run ts with
  | error e =>
    rw [hr] at h
    cases h
    exact itemsFrom_blames declaration_steady hr
  | ok r => rw [hr] at h; cases h

end Grammar

/-! ## Texts -/

/-- A schema below another one whose comments are closed: its declarations follow those of the upper
one, and what is wrong with it is reported as it is on its own, as many lines further down as the
upper schema and the line feed take. -/
theorem ofText_below_ofText {a : String} {f : File} (ha : File.ofText a = .ok f)
    (hc : CommentsClosed a) (b : String) :
    File.ofText (a ++ "\n" ++ b) =
      match File.ofText b with
      | .ok g => .ok (f ++ g)
      | .error e =>
        .error ⟨e.cause, ⟨e.position.line + (a.toList.count '\n' + 1), e.position.column⟩⟩ := by
  obtain ⟨t, ht, hf⟩ := tokens_of_ofText ha
  have hab := Lexical.ofText_below ht hc b
  cases hu : Tokens.ofText b with
  | error p =>
    rw [hu] at hab
    simp only [File.ofText, readTokens, hab, hu]
    rfl
  | ok u =>
    rw [hu] at hab
    rw [ofText_eq_of_tokens hab, ofText_eq_of_tokens hu, Tokens.lexemes_above,
      Grammar.file_append hf]
    cases hg : Grammar.file u.lexemes with
    | ok g => rfl
    | error fault =>
      simp only [Except.map]
      rw [Tokens.place_above t u _ (Grammar.file_blames hg)]
      rfl

/-- A line comment at the end of the upper text goes no further than its line. -/
theorem ofText_below_package :
    CommentsClosed "package a; /* b */ // c" ∧
      File.ofText "package a; /* b */ // c" = .ok [.statement (.package "a")] ∧
      File.ofText ("package a; /* b */ // c" ++ "\n" ++ "import 1;") =
        .error ⟨.expected .string ⟨.number, "1"⟩, ⟨2, 8⟩⟩ :=
  ⟨by decide +kernel, by with_unfolding_all rfl,
    (ofText_below_ofText (by with_unfolding_all rfl) (by decide +kernel) "import 1;").trans
      (by with_unfolding_all rfl)⟩

end ServiceScaffold.Schema

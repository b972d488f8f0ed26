import ServiceScaffold.Proofs.Lexical.OpenLiteral
import ServiceScaffold.Proofs.Schema.Blame
import ServiceScaffold.Proofs.Schema.Spacing

/-!
# Where the parsers stand

`Reaches p ts us` says that `p`, run at `ts`, comes to a state in which `us` is left. Each such
state is a place among the tokens of the text, the end of the input being the last of them, and
looking ahead goes no further than that one (`Tokens.At`). All loops and all productions take
something, so no loop makes more turns than there are tokens; and a refusal points to a token of the
text or to a quote that opens a literal without an end (`ofText_progresses`).
-/
namespace ServiceScaffold.Schema
namespace Parser
open Grammar

/-! ## States of a run -/

/-- The states to which a parser comes, each told by the lexemes that are left in it. -/
inductive Reaches : {α : Type} → Parser α → List Lexeme → List Lexeme → Prop
  | here {α : Type} (p : Parser α) (ts : List Lexeme) : Reaches p ts ts
  | done {α : Type} {p : Parser α} {ts a rest} : p.run ts = .ok (a, rest) → Reaches p ts rest
  | first {α β : Type} {p : Parser α} {f : α → Parser β} {ts us} : Reaches p ts us →
      Reaches (p >>= f) ts us
  | second {α β : Type} {p : Parser α} {f : α → Parser β} {ts a mid us} :
      p.run ts = .ok (a, mid) → Reaches (f a) mid us → Reaches (p >>= f) ts us
  | text {q t ts us} : q t = true → Reaches (textWhile q) ts us →
      Reaches (textWhile q) (t :: ts) us
  | statement {t ts us} : t.is (.delimiter .semicolon) = false → Reaches statementText ts us →
      Reaches statementText (t :: ts) us
  | brackets {opening closing t passed us} : t.kind = .delimiter opening →
      closeBrackets? (.delimiter opening) (.delimiter closing) 0 passed = none →
      Reaches (balanced opening closing) (t :: (passed ++ us)) us
  | item {α : Type} {stop} {item : Parser (Option α)} {hc ts us} :
      (ts.isEmpty || stop ts) = false → Reaches item ts us → Reaches (items stop item hc) ts us
  | nextItem {α : Type} {stop} {item : Parser (Option α)} {hc ts o mid us} :
      (ts.isEmpty || stop ts) = false → item.run ts = .ok (o, mid) →
      Reaches (items stop item hc) mid us → Reaches (items stop item hc) ts us

theorem Reaches.suffix {α : Type} {p : Parser α} {ts us : List Lexeme} (h : Reaches p ts us) :
    us <:+ ts := by
  induction h with
  | here p ts => exact List.suffix_refl ts
  | done hr => exact Parser.suffix _ hr
  | first _ ih => exact ih
  | second hr _ ih => exact ih.trans (Parser.suffix _ hr)
  | text _ _ ih => exact ih.trans (List.suffix_cons ..)
  | statement _ _ ih => exact ih.trans (List.suffix_cons ..)
  | brackets => exact (List.suffix_append ..).trans (List.suffix_cons ..)
  | item _ _ ih => exact ih
  | nextItem _ hr _ ih => exact ih.trans (Parser.suffix _ hr)

/-! ## Productions -/

/-- What the bodies of a file, of a message, of a oneof, of an enumeration and of a service call. -/
inductive Production : {α : Type} → Parser α → Prop
  | dialect : Production dialect
  | package : Production package
  | importing : Production importing
  | setting : Production setting
  | message : Production message
  | enumeration : Production enumeration
  | service : Production service
  | extend : Production extend
  | oneof : Production oneof
  | field : Production field
  | mapField : Production mapField
  | group : Production group
  | rpc : Production rpc
  | statementText : Production statementText

theorem Steady.consuming {α : Type} {p : Parser α} {n k : Nat} (h : Steady (n + 1) k p) :
    Consuming p := by
  intro ts a rest hr
  have := h.takes hr
  omega

theorem Production.consuming {α : Type} {p : Parser α} (h : Production p) : Consuming p := by
  cases h with
  | dialect => exact dialect_steady.consuming
  | package => exact package_steady.consuming
  | importing => exact importing_steady.consuming
  | setting => exact setting_steady.consuming
  | message => exact message_steady.consuming
  | enumeration => exact enumeration_steady.consuming
  | service => exact service_steady.consuming
  | extend => exact extend_steady.consuming
  | oneof => exact oneof_steady.consuming
  | field => exact field_steady.consuming
  | mapField => exact mapField_steady.consuming
  | group => exact group_steady.consuming
  | rpc => exact rpc_steady.consuming
  | statementText => exact statementText_steady.consuming

/-- Every loop of the parsers, and the one of the scanner, takes something in each turn; and a
nested message is read from less than what the one around it is read from. -/
structure LoopsProgress : Prop where
  pieces : Lexer.scanLoop.Runs Lexer.scan
  file : (itemLoop (fun _ => false) declaration).Runs declarations.run
  message : (itemLoop atBodyEnd elementTurn).Runs elements.run
  nested : ∀ {ts name inside}, entry.run ts = .ok (.opens name, inside) →
    inside.length < ts.length
  oneof : (itemLoop atBodyEnd oneofItem).Runs (items atBodyEnd oneofItem oneofItem_consuming).run
  enumeration : (itemLoop atBodyEnd enumItem).Runs (items atBodyEnd enumItem enumItem_consuming).run
  service : (itemLoop atBodyEnd serviceItem).Runs
    (items atBodyEnd serviceItem serviceItem_consuming).run
  rpc : (itemLoop atBodyEnd rpcItem).Runs (items atBodyEnd rpcItem rpcItem_consuming).run
  strings : (textLoop (·.is .string)).Runs (textWhile (·.is .string)).run
  selectors : (textLoop isSelector).Runs (textWhile isSelector).run
  statementStarts : ∀ ts, statementText.run ts = statementFrom ([], ts)
  statements : statementLoop.Runs statementFrom
  brackets : ∀ opening closing,
    (bracketLoop opening closing).Runs fun s => closeBrackets? opening closing s.1 s.2

theorem loopsProgress : LoopsProgress where
  pieces := Lexer.scanLoop_runs
  file := itemLoop_runs _ declaration_consuming
  message := elementLoop_runs
  nested h := entry_consuming h
  oneof := itemLoop_runs _ oneofItem_consuming
  enumeration := itemLoop_runs _ enumItem_consuming
  service := itemLoop_runs _ serviceItem_consuming
  rpc := itemLoop_runs _ rpcItem_consuming
  strings := textLoop_runs _
  selectors := textLoop_runs _
  statementStarts := statementText_run
  statements := statementLoop_runs
  brackets := bracketLoop_runs

end Parser

/-! ## Places among the tokens -/

/-- With `us` left the parser is at the token of this number. What lies ahead are the tokens from
there on, and beyond the last of them that one again. -/
structure Tokens.At (t : Tokens) (i : Nat) (us : List Lexeme) : Prop where
  valid : i < t.withEnd.length
  head : (t.withEnd[i]?).map Token.lexeme = some (Parser.head us)
  ahead : ∀ k, (t.withEnd[min (i + k) (t.withEnd.length - 1)]?).map (·.lexeme.kind) =
    some (Grammar.kindAt us k)

theorem Tokens.at_of_suffix {t : Tokens} {us : List Lexeme} (h : us <:+ t.lexemes) :
    t.At (t.lexemes.length - us.length) us := by
  obtain ⟨front, hf⟩ := h
  have hlexemes : t.withEnd.map Token.lexeme = front ++ (us ++ [.endOfInput]) := by
    rw [← List.append_assoc, hf]
    simp [withEnd, lexemes]
  have hlength : t.withEnd.length = front.length + us.length + 1 := by
    have := congrArg List.length hlexemes
    simpa [Nat.add_assoc] using this
  have hi : t.lexemes.length - us.length = front.length := by
    rw [← hf, List.length_append, Nat.add_sub_cancel]
  have hget (k : Nat) : (t.withEnd[front.length + k]?).map Token.lexeme =
      (us ++ [.endOfInput])[k]? := by
    rw [← List.getElem?_map, hlexemes, List.getElem?_append_right (Nat.le_add_right ..),
      Nat.add_sub_cancel_left]
  rw [hi]
  refine ⟨by omega, ?_, ?_⟩
  · rw [← Nat.add_zero front.length, hget 0]
    cases us <;> rfl
  · intro k
    have hmin : min (front.length + k) (t.withEnd.length - 1) = front.length + min k us.length := by
      omega
    have hkind := congrArg (Option.map Lexeme.kind) (hget (min k us.length))
    rw [Option.map_map] at hkind
    rw [hmin]
    refine hkind.trans ?_
    rw [Grammar.kindAt]
    by_cases hk : k < us.length
    · rw [Nat.min_eq_left (Nat.le_of_lt hk), List.getElem?_append_left hk,
        List.getElem?_eq_getElem hk]
      rfl
    · rw [Nat.min_eq_right (by omega), List.getElem?_concat_length,
        List.getElem?_eq_none (by omega)]
      rfl

/-! ## Texts -/

/-- What is blamed is a token of the text, the end of the input among them, which the cause names;
or it is the quote that opens a literal without an end. -/
inductive Located.PointsInto (e : Located) (text : String) : Prop
  | token {t token} : Tokens.ofText text = .ok t → token ∈ t.withEnd →
      e.position = token.position → e.cause.Names token.lexeme → e.PointsInto text
  | quote : Tokens.ofText text = .error e.position → e.cause = .unterminatedString →
      Lexical.OpenLiteral [] text.toList e.position → e.PointsInto text

theorem pointsInto_of_ofText {text : String} {e : Located} (h : File.ofText text = .error e) :
    e.PointsInto text := by
  cases ht : Tokens.ofText text with
  | error place =>
    rw [File.ofText, readTokens, ht] at h
    cases h
    exact .quote ht rfl (Lexical.openLiteral_of_ofText ht)
  | ok t =>
    rw [ofText_eq_of_tokens ht] at h
    split at h
    · cases h
    · next fault hf =>
      cases h
      obtain ⟨us, hsuffix, hlength, hnames⟩ := Grammar.file_blamedIn hf
      obtain ⟨l, hget⟩ := t.withEnd_getElem? fault.remaining
      have hhead := (Tokens.at_of_suffix hsuffix).head
      rw [hlength, hget] at hhead
      have hl : l = Parser.head us := Option.some.inj hhead
      exact .token ht (List.mem_of_getElem? hget) rfl (hl ▸ hnames)

/-- Reading a text takes something in each turn of each loop and in each production, stands on a
token all the time, and blames one that is there. The run is that of `Grammar.file`, which is what
`Grammar.declarations` reads. How deep the calls of an interpreter may nest is not modelled: messages
nested to any depth are read. -/
theorem ofText_progresses :
    Parser.LoopsProgress ∧
    (∀ {α : Type} {p : Parser α}, Parser.Production p → Parser.Consuming p) ∧
    ∀ text,
      (∀ t us, Tokens.ofText text = .ok t →
        Parser.Reaches Grammar.declarations t.lexemes us →
        t.At (t.lexemes.length - us.length) us) ∧
      ∀ e, File.ofText text = .error e → e.PointsInto text := by
  refine ⟨Parser.loopsProgress, Parser.Production.consuming, ?_⟩
  intro text
  constructor
  · intro t us _ hr
    exact Tokens.at_of_suffix hr.suffix
  · intro e he
    exact pointsInto_of_ofText he

end ServiceScaffold.Schema

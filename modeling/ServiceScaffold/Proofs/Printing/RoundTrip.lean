import ServiceScaffold.Proofs.Printing.Declarations

/-!
# Reading undoes printing

The lexemes of a printable file can be written down, so that they are the tokens of its text, and
the grammar reads them as the file: `File.ofText_text`.
-/
namespace ServiceScaffold.Schema
open Printing
open Lexeme (ofWord ofDelimiter)

namespace Printing

/-! ## What a printed file is written with -/

def AreWritable (ls : List Lexeme) : Prop :=
  ∀ l ∈ ls, IsWritable l

attribute [simp] IsWritable.delimiter isWritable_mark isWritable_numeral

@[simp] theorem areWritable_nil : AreWritable [] := nofun

@[simp] theorem areWritable_cons {l : Lexeme} {ls : List Lexeme} :
    AreWritable (l :: ls) ↔ IsWritable l ∧ AreWritable ls :=
  List.forall_mem_cons

@[simp] theorem areWritable_append {ls ms : List Lexeme} :
    AreWritable (ls ++ ms) ↔ AreWritable ls ∧ AreWritable ms :=
  List.forall_mem_append

@[simp] theorem areWritable_flatMap {α : Type} {print : α → List Lexeme} {xs : List α} :
    AreWritable (xs.flatMap print) ↔ ∀ x ∈ xs, AreWritable (print x) := by
  constructor
  · intro h x hx l hl
    exact h l (List.mem_flatMap.2 ⟨x, hx, hl⟩)
  · intro h l hl
    obtain ⟨x, hx, hl⟩ := List.mem_flatMap.1 hl
    exact h x hx l hl

@[simp] theorem areWritable_bracedWith {ls : List Lexeme} :
    AreWritable (bracedWith ls) ↔ AreWritable ls := by
  simp [bracedWith]

theorem areWritable_setting {s : Setting} (h : s.IsPrintable) : AreWritable s.lexemes := by
  obtain ⟨hn, hv⟩ := h
  have hname : AreWritable (settingName s.name) := isWritable_settingName hn
  have hvalue : IsWritable (literal s.value) := .literal hv
  simp [Setting.lexemes, hname, hvalue]

@[simp] theorem areWritable_label (label : Label) : AreWritable label.lexemes := by
  cases label <;> simp [Label.lexemes]

theorem areWritable_field {f : Field} (h : f.IsPrintable) : AreWritable f.lexemes := by
  obtain ⟨ht, hn, _⟩ := h
  simp [Field.lexemes, IsWritable.word ht, IsWritable.word hn]

theorem areWritable_mapField {f : MapField} (h : f.IsPrintable) : AreWritable f.lexemes := by
  obtain ⟨hk, hv, hn, _⟩ := h
  simp [MapField.lexemes, IsWritable.word hk, IsWritable.word hv, IsWritable.word hn]

theorem areWritable_group {g : Group} (h : IsWord g.name) : AreWritable g.lexemes := by
  simp [Group.lexemes, IsWritable.word h]

theorem areWritable_oneof {o : Oneof} (hn : IsWord o.name) (hf : ∀ f ∈ o.fields, f.IsPrintable) :
    AreWritable o.lexemes := by
  have hfields : ∀ f ∈ o.fields, AreWritable f.lexemes := fun f hm => areWritable_field (hf f hm)
  simpa [Oneof.lexemes, IsWritable.word hn] using hfields

theorem areWritable_enumeration {e : Enumeration} (h : e.IsPrintable) :
    AreWritable e.lexemes := by
  obtain ⟨hn, hv⟩ := h
  have hvalues : ∀ v ∈ e.values.zipIdx, AreWritable (enumValue v) := by
    intro v hm
    have hw := (hv v.1 (List.fst_mem_of_mem_zipIdx hm)).1
    simp [enumValue, IsWritable.word hw]
  rw [Enumeration.lexemes, areWritable_cons, areWritable_cons, areWritable_bracedWith,
    areWritable_flatMap]
  exact ⟨isWritable_mark _, .word hn, hvalues⟩

theorem areWritable_extensions {text : String} (h : IsRangeList text) :
    AreWritable ((parts text).map rangePart) := by
  intro l hl
  obtain ⟨part, hp, rfl⟩ := List.mem_map.1 hl
  exact isWritable_rangePart (h.2 part hp)

theorem areWritable_importKind (kind : ImportKind) : AreWritable kind.lexemes := by
  cases kind with
  | plain => exact areWritable_nil
  | reexported => simpa [ImportKind.lexemes] using IsWritable.word (by decide)
  | weak => simpa [ImportKind.lexemes] using IsWritable.word (by decide)

theorem areWritable_statement {s : Statement} (h : s.IsPrintable) : AreWritable s.lexemes := by
  cases s with
  | dialect value =>
    have hv : IsWritable (literal value) := .literal h
    simp [Statement.lexemes, hv]
  | package name => simp [Statement.lexemes, IsWritable.word h]
  | importing i =>
    have hp : IsWritable (literal i.path) := .literal h
    simp [Statement.lexemes, areWritable_importKind, hp]
  | field f => exact areWritable_field h
  | mapField f => exact areWritable_mapField h
  | group g => exact areWritable_group h.1
  | enumeration e => exact areWritable_enumeration h
  | reserved text =>
    have ht : IsWritable (literal text) := .literal h
    simp [Statement.lexemes, ht]
  | extensions text => simp [Statement.lexemes, areWritable_extensions h]
  | extend extendee => simp [Statement.lexemes, IsWritable.word h]

mutual

theorem areWritable_element : (e : MessageElement) → e.IsPrintable → AreWritable e.lexemes
  | .statement _, h => by
    rw [MessageElement.lexemes]
    exact areWritable_statement h.2
  | .oneof _, h => by
    rw [MessageElement.lexemes]
    exact areWritable_oneof h.1 h.2
  | .setting _, h => by
    rw [MessageElement.lexemes]
    exact areWritable_setting h
  | .message _ inner, h => by
    have hinner := areWritable_elements inner h.2
    simp [MessageElement.lexemes, IsWritable.word h.1, hinner]

theorem areWritable_elements : (es : List MessageElement) → ArePrintable es →
    AreWritable (elementLexemes es)
  | [], _ => areWritable_nil
  | e :: es, h => by
    rw [elementLexemes, areWritable_append]
    exact ⟨areWritable_element e h.1, areWritable_elements es h.2⟩

end

theorem areWritable_rpcType {stream : Bool} {typeName : String} (h : IsWord typeName) :
    AreWritable (rpcType stream typeName) := by
  cases stream <;> simp [rpcType, IsWritable.word h]

theorem areWritable_rpc {r : Rpc} (h : r.IsPrintable) : AreWritable r.lexemes := by
  obtain ⟨hn, hq, hp, hs⟩ := h
  have hsettings : AreWritable (if r.settings = [] then [ofDelimiter .semicolon]
      else bracedWith (r.settings.flatMap Setting.lexemes)) := by
    split
    · simp
    · simpa using fun s hm => areWritable_setting (hs s hm)
  simp [Rpc.lexemes, IsWritable.word hn, areWritable_rpcType hq, areWritable_rpcType hp, hsettings]

theorem areWritable_serviceElement {e : ServiceElement} (h : e.IsPrintable) :
    AreWritable e.lexemes := by
  cases e with
  | rpc r => exact areWritable_rpc h
  | setting s => exact areWritable_setting h

theorem areWritable_declaration {d : Declaration} (h : d.IsPrintable) :
    AreWritable d.lexemes := by
  cases d with
  | statement s => exact areWritable_statement h.2
  | setting s => exact areWritable_setting h
  | message m =>
    have helements := areWritable_elements m.elements h.2
    simp [Declaration.lexemes, IsWritable.word h.1, helements]
  | service s =>
    have helements : ∀ e ∈ s.elements, AreWritable e.lexemes := fun e hm =>
      areWritable_serviceElement (h.2 e hm)
    simpa [Declaration.lexemes, IsWritable.word h.1] using helements

theorem areWritable_file {f : File} (h : f.IsPrintable) : AreWritable f.lexemes := by
  rw [File.lexemes, areWritable_flatMap]
  intro d hd
  exact areWritable_declaration (h d hd)

end Printing

/-! ## Deciding what can be printed -/

instance (n : Int) : Decidable (IsFieldNumber n) :=
  inferInstanceAs (Decidable (1 ≤ n ∧ n ≤ 0x1FFFFFFF))

instance (text : String) : Decidable (IsRangeList text) :=
  inferInstanceAs (Decidable (_ ∧ ∀ part ∈ parts text, IsNumeral part ∨ IsWord part ∨ part = ","))

instance (s : Setting) : Decidable s.IsPrintable :=
  inferInstanceAs (Decidable (IsSettingName s.name ∧ IsQuotable s.value))

instance (f : Field) : Decidable f.IsPrintable :=
  inferInstanceAs (Decidable (_ ∧ _ ∧ _ ∧ _ ∧ _ ∧ (_ → _)))

instance (f : MapField) : Decidable f.IsPrintable :=
  inferInstanceAs (Decidable (_ ∧ _ ∧ _ ∧ _))

instance (e : Enumeration) : Decidable e.IsPrintable :=
  inferInstanceAs (Decidable (_ ∧ ∀ v ∈ e.values, IsWord v ∧ v ≠ Keyword.option.text))

instance : (s : Statement) → Decidable s.IsPrintable
  | .dialect value => inferInstanceAs (Decidable (IsQuotable value))
  | .package name => inferInstanceAs (Decidable (IsWord name))
  | .importing i => inferInstanceAs (Decidable (IsQuotable i.path))
  | .field f => inferInstanceAs (Decidable f.IsPrintable)
  | .mapField f => inferInstanceAs (Decidable f.IsPrintable)
  | .group g => inferInstanceAs (Decidable (IsWord g.name ∧ IsFieldNumber g.number))
  | .enumeration e => inferInstanceAs (Decidable e.IsPrintable)
  | .reserved text => inferInstanceAs (Decidable (IsQuotable text))
  | .extensions text => inferInstanceAs (Decidable (IsRangeList text))
  | .extend extendee => inferInstanceAs (Decidable (IsWord extendee))

mutual

def MessageElement.decidePrintable : (e : MessageElement) → Decidable e.IsPrintable
  | .statement s => inferInstanceAs (Decidable (s.standsInMessage = true ∧ s.IsPrintable))
  | .oneof o => inferInstanceAs (Decidable (IsWord o.name ∧ ∀ f ∈ o.fields, f.IsPrintable))
  | .setting s => inferInstanceAs (Decidable s.IsPrintable)
  | .message name elements =>
    have := decideArePrintable elements
    inferInstanceAs (Decidable (IsWord name ∧ ArePrintable elements))

def decideArePrintable : (es : List MessageElement) → Decidable (ArePrintable es)
  | [] => .isTrue trivial
  | e :: es =>
    have := e.decidePrintable
    have := decideArePrintable es
    inferInstanceAs (Decidable (e.IsPrintable ∧ ArePrintable es))

end

instance (es : List MessageElement) : Decidable (ArePrintable es) :=
  decideArePrintable es

instance (r : Rpc) : Decidable r.IsPrintable :=
  inferInstanceAs (Decidable (_ ∧ _ ∧ _ ∧ ∀ s ∈ r.settings, s.IsPrintable))

instance : (e : ServiceElement) → Decidable e.IsPrintable
  | .rpc r => inferInstanceAs (Decidable r.IsPrintable)
  | .setting s => inferInstanceAs (Decidable s.IsPrintable)

instance : (d : Declaration) → Decidable d.IsPrintable
  | .statement s => inferInstanceAs (Decidable (s.standsInFile = true ∧ s.IsPrintable))
  | .setting s => inferInstanceAs (Decidable s.IsPrintable)
  | .message m => inferInstanceAs (Decidable (IsWord m.name ∧ ArePrintable m.elements))
  | .service s => inferInstanceAs (Decidable (IsWord s.name ∧ ∀ e ∈ s.elements, e.IsPrintable))

instance (f : File) : Decidable f.IsPrintable :=
  inferInstanceAs (Decidable (∀ d ∈ f, d.IsPrintable))

/-! ## Round trip -/

/-- Layout is free: any text with the lexemes of a printable file is read as the file. -/
theorem File.ofText_of_lexemes {f : File} (h : f.IsPrintable) {text : String} {t : Tokens}
    (ht : Tokens.ofText text = .ok t) (hl : t.lexemes = f.lexemes) :
    File.ofText text = .ok f := by
  have hread : readTokens text = .ok t := by rw [readTokens, ht]
  have hfile : Grammar.file t.lexemes = .ok f := by rw [hl, file_run h]
  simp [File.ofText, hread, hfile, bind, Except.bind]

/-- What is printed of a file is read as the file. -/
theorem File.ofText_text (f : File) (h : f.IsPrintable) : File.ofText f.text = .ok f := by
  obtain ⟨t, ht, hl⟩ := ofText_layout (areWritable_file h)
  exact File.ofText_of_lexemes h ht hl

/-- Keywords as names and types, in every kind of declaration. -/
def keywordFile : File :=
  [.statement (.dialect "proto3"), .statement (.package "map.rpc.stream"),
    .statement (.importing ⟨"a/b.proto", .reexported⟩),
    .setting ⟨"(my.opt).a.b", "it\'s"⟩,
    .message ⟨"message", [
      .statement (.field ⟨"optional", "repeated", 1, false, .bare⟩),
      .statement (.field ⟨"reserved", "extensions", 2, true, .repeated⟩),
      .statement (.field ⟨"message", "oneof", 3, false, .bare⟩),
      .message "enum" [
        .statement (.mapField ⟨"map", "stream", "group", 0x1FFFFFFF⟩),
        .message "Inner" [.statement (.extend "extend")],
        .statement (.reserved "2 to 4")],
      .statement (.group ⟨"group", 4, .required⟩),
      .oneof ⟨"oneof", [⟨".a.option", "option", 5, false, .bare⟩]⟩,
      .statement (.extensions "100 to max , 7"),
      .statement (.enumeration ⟨"Kind", ["reserved", "rpc"]⟩),
      .setting ⟨"deprecated", "x"⟩]⟩,
    .service ⟨"service", [
      .setting ⟨"option", ""⟩,
      .rpc ⟨"rpc", "stream", "stream", false, true, []⟩,
      .rpc ⟨"returns", "map", ".a.B", true, false, [⟨"o", "\""⟩]⟩]⟩]

theorem File.ofText_text_keywordFile :
    keywordFile.IsPrintable ∧ File.ofText keywordFile.text = .ok keywordFile :=
  ⟨by decide +kernel, File.ofText_text keywordFile (by decide +kernel)⟩

end ServiceScaffold.Schema

import ServiceScaffold.Proofs.Printing.Reading

/-!
# Reading printed messages

In a message the lexemes ahead decide which declaration comes next (`entry`), and a message nested
in it is read on the spot. `elements_read` follows the nesting: the elements of a printed message
are read back whatever is nested in what.
-/
namespace ServiceScaffold.Schema.Printing
open Schema.Parser Grammar Lexical
open Lexeme (ofWord ofDelimiter)

variable {α : Type}

/-! ## Statements as text -/

theorem statementText_run {ls : List Lexeme} (h : ∀ l ∈ ls, l.kind ≠ .delimiter .semicolon)
    (rest : List Lexeme) : statementText.run (ls ++ ofDelimiter .semicolon :: rest) =
      .ok (spaced (ls.map Lexeme.text), rest) := by
  have hp : ∀ l ∈ ls, (!l.is (.delimiter .semicolon)) = true := by
    intro l hl
    simp [Lexeme.is, h l hl]
  have ht : (ofDelimiter .semicolon :: rest).takeWhile (!·.is (.delimiter .semicolon)) = [] := rfl
  have hd : (ofDelimiter .semicolon :: rest).dropWhile (!·.is (.delimiter .semicolon)) =
      ofDelimiter .semicolon :: rest := rfl
  simp only [statementText]
  rw [List.dropWhile_append_of_pos hp, List.takeWhile_append_of_pos hp, ht, hd, List.append_nil]

theorem reservedText_run (text : String) (rest : List Lexeme) :
    statementText.run (literal text :: ofDelimiter .semicolon :: rest) = .ok (text, rest) := by
  have h : ∀ l ∈ [literal text], l.kind ≠ .delimiter .semicolon := by simp
  have hr := statementText_run h rest
  rw [List.map_singleton, spaced, String.intercalate_singleton] at hr
  exact hr

theorem rangeText_run (text : String) (rest : List Lexeme) :
    statementText.run ((parts text).map rangePart ++ ofDelimiter .semicolon :: rest) =
      .ok (text, rest) := by
  have h : ∀ l ∈ (parts text).map rangePart, l.kind ≠ .delimiter .semicolon := by
    intro l hl
    obtain ⟨part, _, rfl⟩ := List.mem_map.1 hl
    exact kind_rangePart_ne part
  have htext : ((parts text).map rangePart).map Lexeme.text = parts text := by
    rw [List.map_map]
    exact List.map_id'' (fun _ => text_rangePart) _
  rw [statementText_run h, htext, spaced_parts]

/-! ## Which declaration comes next -/

/-- What a parser reads stands as an element of the message. -/
theorem element_of_run {p : Parser α} {f : α → MessageElement} {ts rest : List Lexeme} {a : α}
    (h : entry.run ts = ((Entry.element ∘ f) <$> p).run ts) (hp : p.run ts = .ok (a, rest)) :
    entry.run ts = .ok (.element (f a), rest) := by
  rw [h, map_run _ hp]
  rfl

theorem opens_run (name : String) (rest : List Lexeme) :
    entry.run (mark .message :: ofWord name :: ofDelimiter .lbrace :: rest) =
      .ok (.opens name, rest) := by
  have hb : startsBlock .message (mark .message :: ofWord name :: ofDelimiter .lbrace :: rest) =
      true := by simp [startsBlock]
  rw [entry, look_bind_run, if_neg (by simp), look_bind_run, if_pos hb,
    run_bind_of_ok (keyword_run _ _), run_bind_of_ok (word_run _ _),
    run_bind_of_ok (delimiter_run _ _), run_pure]

theorem entry_run_oneof {o : Oneof} (h : ∀ f ∈ o.fields, f.IsPrintable) (rest : List Lexeme) :
    entry.run (o.lexemes ++ rest) = .ok (.element (.oneof o), rest) := by
  refine element_of_run ?_ (oneof_run h rest)
  simp [entry, startsBlock, Oneof.lexemes, bracedWith, Function.comp_def]

theorem entry_run_setting {s : Setting} (h : s.IsPrintable) (rest : List Lexeme) :
    entry.run (s.lexemes ++ rest) = .ok (.element (.setting s), rest) := by
  refine element_of_run ?_ (setting_run h rest)
  simp [entry, startsBlock, Setting.lexemes, Function.comp_def]

theorem entry_run_enumeration {e : Enumeration} (h : e.IsPrintable) (rest : List Lexeme) :
    entry.run (e.lexemes ++ rest) = .ok (.element (.statement (.enumeration e)), rest) := by
  refine element_of_run (f := .statement ∘ .enumeration) ?_ (enumeration_run h rest)
  simp [entry, startsBlock, Enumeration.lexemes, bracedWith, Function.comp_def]

theorem entry_run_extend (extendee : String) (rest : List Lexeme) :
    entry.run (mark .extend :: ofWord extendee :: (bracedWith [] ++ rest)) =
      .ok (.element (.statement (.extend extendee)), rest) := by
  refine element_of_run (f := .statement ∘ .extend) ?_ (extend_run extendee rest)
  simp [entry, startsBlock, bracedWith, Function.comp_def]

/-- Text stands where a field named `reserved` has its equals sign. -/
theorem entry_run_reserved (text : String) (rest : List Lexeme) :
    entry.run (mark .reserved :: literal text :: ofDelimiter .semicolon :: rest) =
      .ok (.element (.statement (.reserved text)), rest) := by
  have hp : (keyword .reserved >>= fun _ => statementText).run
      (mark .reserved :: literal text :: ofDelimiter .semicolon :: rest) = .ok (text, rest) := by
    rw [run_bind_of_ok (keyword_run _ _), reservedText_run]
  refine element_of_run (f := .statement ∘ .reserved) ?_ hp
  simp [entry, startsBlock, Function.comp_def]

/-- A number stands where a field of type `extensions` has its name. -/
theorem entry_run_extensions {text : String} (h : IsRangeList text) (rest : List Lexeme) :
    entry.run (mark .extensions :: ((parts text).map rangePart ++ ofDelimiter .semicolon :: rest)) =
      .ok (.element (.statement (.extensions text)), rest) := by
  obtain ⟨⟨first, hf, hn⟩, _⟩ := h
  obtain ⟨others, hparts⟩ := List.head?_eq_some_iff.1 hf
  have hp : (keyword .extensions >>= fun _ => statementText).run
      (mark .extensions :: ((parts text).map rangePart ++ ofDelimiter .semicolon :: rest)) =
        .ok (text, rest) := by
    rw [run_bind_of_ok (keyword_run _ _), rangeText_run]
  refine element_of_run (f := .statement ∘ .extensions) ?_ hp
  have hfirst : (rangePart first).kind = .number := by rw [rangePart, if_pos hn]
  simp [entry, startsBlock, hparts, hfirst, Function.comp_def]

theorem entry_run_mapField {f : MapField} (h : f.IsPrintable) (rest : List Lexeme) :
    entry.run (f.lexemes ++ rest) = .ok (.element (.statement (.mapField f)), rest) := by
  refine element_of_run (f := .statement ∘ .mapField) ?_ (mapField_run h rest)
  simp [entry, startsBlock, MapField.lexemes, Function.comp_def]

theorem entry_run_group {g : Group} (h : IsFieldNumber g.number) (rest : List Lexeme) :
    entry.run (g.lexemes ++ rest) = .ok (.element (.statement (.group g)), rest) := by
  refine element_of_run (f := .statement ∘ .group) ?_ (group_run h rest)
  cases hl : g.label <;>
    simp [entry, startsBlock, startsGroup, labelOf?, Group.lexemes, Label.lexemes, hl,
      Function.comp_def]

/-- No other declaration comes before a field in the order of the tests. -/
theorem entry_run_field {f : Field} (h : f.IsPrintable) (rest : List Lexeme) :
    entry.run (f.lexemes ++ rest) = .ok (.element (.statement (.field f)), rest) := by
  have hl := looksLikeField h rest
  have hr : ¬ (kindAt (f.lexemes ++ rest) 0 = .keyword .reserved ∧
      kindAt (f.lexemes ++ rest) 2 ≠ .delimiter .equals) := fun h => h.2 (hl.reserved h.1)
  refine element_of_run (f := .statement ∘ .field) ?_ (field_run h rest)
  simp [entry, hl.block, hl.group, hl.option, hl.isWord, hl.map, hl.extensions, hl.semicolon, hr,
    Function.comp_def]

theorem statement_run {s : Statement} (hs : s.standsInMessage = true) (h : s.IsPrintable)
    (rest : List Lexeme) :
    entry.run (s.lexemes ++ rest) = .ok (.element (.statement s), rest) := by
  cases s with
  | dialect | package | importing => cases hs
  | field f => exact entry_run_field h rest
  | mapField f => exact entry_run_mapField h rest
  | group g => exact entry_run_group h.2 rest
  | enumeration e => exact entry_run_enumeration h rest
  | reserved text => exact entry_run_reserved text rest
  | extensions text =>
    rw [Statement.lexemes, List.cons_append, List.append_assoc]
    exact entry_run_extensions h rest
  | extend extendee => exact entry_run_extend extendee rest

/-! ## The elements of a message -/

mutual

/-- An element is read in front of whatever elements are. -/
theorem element_read : (e : MessageElement) → e.IsPrintable →
    ∀ {ts rest : List Lexeme} {es : List MessageElement}, ElementsRead ts es rest →
      ElementsRead (e.lexemes ++ ts) (e :: es) rest
  | .statement _, ⟨hs, hp⟩, ts, _, _, h => by
    rw [MessageElement.lexemes]
    exact .element (statement_run hs hp ts) h
  | .oneof _, ⟨_, hp⟩, ts, _, _, h => by
    rw [MessageElement.lexemes]
    exact .element (entry_run_oneof hp ts) h
  | .setting _, hp, ts, _, _, h => by
    rw [MessageElement.lexemes]
    exact .element (entry_run_setting hp ts) h
  | .message name inner, ⟨_, hp⟩, ts, _, _, h => by
    have hinner : ElementsRead (elementLexemes inner ++ ofDelimiter .rbrace :: ts) inner
        (ofDelimiter .rbrace :: ts) := elements_read inner hp rfl
    rw [MessageElement.lexemes, bracedWith, List.cons_append, List.cons_append, List.cons_append,
      List.append_assoc]
    exact .opens (opens_run name _) hinner (delimiter_run .rbrace ts) h

/-- The elements of a message are read back, however messages nest in it. -/
theorem elements_read : (es : List MessageElement) → ArePrintable es →
    ∀ {rest : List Lexeme}, atBodyEnd rest = true →
      ElementsRead (elementLexemes es ++ rest) es rest
  | [], _, _, hr => .done hr
  | e :: es, ⟨he, hes⟩, _, hr => by
    rw [elementLexemes, List.append_assoc]
    exact element_read e he (elements_read es hes hr)

end

theorem message_run {m : Message} (h : ArePrintable m.elements) (rest : List Lexeme) :
    message.run (mark .message :: ofWord m.name ::
      (bracedWith (elementLexemes m.elements) ++ rest)) = .ok (m, rest) := by
  have helements : elements.run (elementLexemes m.elements ++ ofDelimiter .rbrace :: rest) =
      .ok (m.elements, ofDelimiter .rbrace :: rest) :=
    elements_run_eq_ok.2 (elements_read m.elements h rfl)
  rw [bracedWith, List.cons_append, List.append_assoc, message, run_bind_of_ok (keyword_run _ _),
    run_bind_of_ok (word_run _ _), run_bind_of_ok (delimiter_run _ _), List.singleton_append,
    run_bind_of_ok helements, run_bind_of_ok (delimiter_run _ _), run_pure]

end ServiceScaffold.Schema.Printing

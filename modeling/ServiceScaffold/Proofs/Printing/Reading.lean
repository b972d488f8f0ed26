import ServiceScaffold.Proofs.Printing.Atoms

/-!
# Reading printed declarations

Each parser takes what the printer writes for its declaration and leaves the rest. The parsers
tell declarations apart by the kinds of the first lexemes, so those of a field, which may be any
words, are looked at together (`LooksLikeField`).
-/
namespace ServiceScaffold.Schema.Printing
open Schema.Parser Grammar Lexical
open Lexeme (ofWord ofDelimiter)

variable {α β : Type}

/-! ## Kinds -/

@[simp] theorem kindAt_cons_zero (t : Lexeme) (ts : List Lexeme) : kindAt (t :: ts) 0 = t.kind := rfl

@[simp] theorem kindAt_cons_succ (t : Lexeme) (ts : List Lexeme) (i : Nat) :
    kindAt (t :: ts) (i + 1) = kindAt ts i := rfl

@[simp] theorem kind_mark (k : Keyword) : (mark k).kind = .keyword k := rfl

@[simp] theorem kind_ofDelimiter (d : Delimiter) : (ofDelimiter d).kind = .delimiter d := rfl

@[simp] theorem kind_literal (s : String) : (literal s).kind = .string := rfl

@[simp] theorem kind_numeral (n : Int) : (numeral n).kind = .number := rfl

@[simp] theorem isWord_kind_ofWord (s : String) : (ofWord s).kind.isWord = true :=
  Lexeme.isWord_ofWord s

theorem kind_ofWord_eq_keyword {s : String} {k : Keyword} :
    (ofWord s).kind = .keyword k ↔ s = k.text := by
  constructor
  · intro h
    rcases kind_ofWord s with hk | ⟨k', hs, hk⟩
    · rw [hk] at h
      cases h
    · rw [hk] at h
      cases h
      exact hs
  · intro h
    rw [ofWord_keyword h]

@[simp] theorem kind_ofWord_ne_delimiter (s : String) (d : Delimiter) :
    (ofWord s).kind ≠ .delimiter d :=
  kind_ofWord_ne rfl

@[simp] theorem kind_ofWord_ne_number (s : String) : (ofWord s).kind ≠ .number :=
  kind_ofWord_ne rfl

/-! ## Single lexemes -/

@[simp] theorem word_run (s : String) (rest : List Lexeme) :
    word.run (ofWord s :: rest) = .ok (s, rest) := by
  simp [word, satisfy, Lexeme.text_ofWord]

@[simp] theorem word_run_mark (k : Keyword) (rest : List Lexeme) :
    word.run (mark k :: rest) = .ok (k.text, rest) := rfl

@[simp] theorem keyword_run (k : Keyword) (rest : List Lexeme) :
    (keyword k).run (mark k :: rest) = .ok (k.text, rest) := by
  simp [keyword, expect, satisfy, mark]

@[simp] theorem delimiter_run (d : Delimiter) (rest : List Lexeme) :
    (delimiter d).run (ofDelimiter d :: rest) = .ok (String.singleton d.char, rest) := by
  simp [delimiter, expect, satisfy, ofDelimiter]

@[simp] theorem expect_number_run (n : Int) (rest : List Lexeme) :
    (expect .number).run (numeral n :: rest) = .ok ((numeral n).text, rest) := by
  simp [expect, satisfy]

/-- A literal goes on with the next one, so that something else has to follow. -/
@[simp] theorem literal_run (s : String) (d : Delimiter) (rest : List Lexeme) :
    Grammar.literal.run (literal s :: ofDelimiter d :: rest) =
      .ok (s, ofDelimiter d :: rest) := by
  have hfirst : (expect .string).run (literal s :: ofDelimiter d :: rest) =
      .ok (s, ofDelimiter d :: rest) := rfl
  have hmore : (textWhile (·.is .string)).run (ofDelimiter d :: rest) =
      .ok ("", ofDelimiter d :: rest) := rfl
  rw [Grammar.literal, run_bind_of_ok hfirst, run_bind_of_ok hmore, run_pure, String.append_empty]

theorem fieldNumber_run {n : Int} (h : IsFieldNumber n) (rest : List Lexeme) :
    fieldNumber.run (numeral n :: rest) = .ok (n, rest) := by
  have hpos : 0 < n := h.1
  simp [fieldNumber, value?_numeral h, hpos]

@[simp] theorem empty_braces_run (rest : List Lexeme) :
    (balanced .lbrace .rbrace).run (bracedWith [] ++ rest) = .ok ("\x7b \x7d", rest) :=
  rfl

theorem fieldSettings_run {d : Delimiter} (h : d ≠ .lbracket) (rest : List Lexeme) :
    fieldSettings.run (ofDelimiter d :: rest) = .ok ((), ofDelimiter d :: rest) := by
  have hk : kindAt (ofDelimiter d :: rest) 0 ≠ .delimiter .lbracket := by simpa using h
  rw [fieldSettings, look_bind_run, if_neg hk, run_pure]

theorem numbering_run {n : Int} (hn : IsFieldNumber n) {d : Delimiter} (hd : d ≠ .lbracket)
    (rest : List Lexeme) :
    numbering.run (ofDelimiter .equals :: numeral n :: ofDelimiter d :: rest) =
      .ok (n, ofDelimiter d :: rest) := by
  rw [numbering, run_bind_of_ok (delimiter_run _ _), run_bind_of_ok (fieldNumber_run hn _),
    run_bind_of_ok (fieldSettings_run hd _), run_pure]

/-! ## Loops -/

/-- A loop reads items that were printed one behind the other, `value` being what each is read
as. -/
theorem itemsFrom_flatMap {stop : List Lexeme → Bool} {item : Parser (Option α)}
    {hc : Consuming item} {print : β → List Lexeme} {value : β → α} {xs : List β}
    (hi : ∀ x ∈ xs, ∀ rest, item.run (print x ++ rest) = .ok (some (value x), rest))
    (hs : ∀ x ∈ xs, ∀ rest, stop (print x ++ rest) = false)
    {rest : List Lexeme} (hr : (rest.isEmpty || stop rest) = true) :
    itemsFrom stop item hc (xs.flatMap print ++ rest) = .ok (xs.map value, rest) := by
  rw [itemsFrom_eq_ok]
  induction xs with
  | nil => exact .done hr
  | cons x xs ih =>
    simp only [List.mem_cons, forall_eq_or_imp] at hi hs
    have hread := ItemsRead.item (hs.1 _) (hi.1 _) (ih hi.2 hs.2)
    rw [List.flatMap_cons, List.append_assoc]
    exact hread

/-- The first lexeme is not the brace that ends a body. -/
def OpensItem (ls : List Lexeme) : Prop :=
  ∃ t ts, ls = t :: ts ∧ t.kind ≠ .delimiter .rbrace

theorem not_atBodyEnd {ls : List Lexeme} (h : OpensItem ls) (rest : List Lexeme) :
    atBodyEnd (ls ++ rest) = false := by
  obtain ⟨t, ts, rfl, ht⟩ := h
  simp [atBodyEnd, Lexeme.is, ht]

theorem braced_run {item : Parser (Option α)} {hc : Consuming item} {print : β → List Lexeme}
    {value : β → α} {xs : List β}
    (hi : ∀ x ∈ xs, ∀ rest, item.run (print x ++ rest) = .ok (some (value x), rest))
    (ho : ∀ x ∈ xs, OpensItem (print x)) (rest : List Lexeme) :
    (braced item hc).run (bracedWith (xs.flatMap print) ++ rest) = .ok (xs.map value, rest) := by
  have h : (items atBodyEnd item hc).run (xs.flatMap print ++ ofDelimiter .rbrace :: rest) =
      .ok (xs.map value, ofDelimiter .rbrace :: rest) :=
    itemsFrom_flatMap hi (fun x hx => not_atBodyEnd (ho x hx)) rfl
  rw [bracedWith, List.cons_append, List.append_assoc, braced, run_bind_of_ok (delimiter_run _ _),
    List.singleton_append, run_bind_of_ok h, run_bind_of_ok (delimiter_run _ _), run_pure]

/-! ## Settings -/

theorem settingBase_run_word (name : String) (rest : List Lexeme) :
    settingBase.run (ofWord name :: rest) = .ok (name, rest) := by
  rw [settingBase, look_bind_run, kindAt_cons_zero]
  split
  · next h => exact absurd h (kind_ofWord_ne_delimiter name _)
  · simp [satisfy, Lexeme.text_ofWord]

theorem settingBase_run_parenthesized (name : String) (rest : List Lexeme) :
    settingBase.run (ofDelimiter .lparen :: ofWord name :: ofDelimiter .rparen :: rest) =
      .ok ("(" ++ name ++ ")", rest) := by
  rw [settingBase, look_bind_run, kindAt_cons_zero, kind_ofDelimiter]
  rw [run_bind_of_ok (delimiter_run _ _), run_bind_of_ok (word_run _ _),
    run_bind_of_ok (delimiter_run _ _), run_pure]

/-- A word behind the parentheses is a selector, and the equals sign is none. -/
theorem selectors_run {behind : String}
    (h : behind = "" ∨ IsWord behind ∧ behind.toList.head? = some '.') (rest : List Lexeme) :
    (textWhile isSelector).run ((if behind = "" then [] else [ofWord behind]) ++
      ofDelimiter .equals :: rest) = .ok (behind, ofDelimiter .equals :: rest) := by
  by_cases he : behind = ""
  · rw [if_pos he, he]
    rfl
  · obtain ⟨_, hdot⟩ := h.resolve_left he
    have hk : ofWord behind = ⟨.ident, behind⟩ := ofWord_ident fun k e => by
      rw [e] at hdot
      cases k <;> exact absurd hdot (by decide)
    have hs : isSelector ⟨.ident, behind⟩ = true := by
      simp [isSelector, Lexeme.is, hdot]
    have ht : (ofDelimiter .equals :: rest).takeWhile isSelector = [] := rfl
    have hd : (ofDelimiter .equals :: rest).dropWhile isSelector = ofDelimiter .equals :: rest := rfl
    rw [if_neg he, hk, List.singleton_append]
    change Except.ok (String.join ((List.takeWhile isSelector _).map Lexeme.text),
      List.dropWhile isSelector _) = _
    rw [List.takeWhile_cons_of_pos hs, List.dropWhile_cons_of_pos hs, ht, hd]
    simp

theorem settingName_run {name : String} (h : IsSettingName name) (rest : List Lexeme) :
    Grammar.settingName.run (settingName name ++ ofDelimiter .equals :: rest) =
      .ok (name, ofDelimiter .equals :: rest) := by
  rcases settingName_cases h with h | ⟨inner, behind, hp, hi, hb, he⟩
  · have hs : (textWhile isSelector).run (ofDelimiter .equals :: rest) =
        .ok ("", ofDelimiter .equals :: rest) := rfl
    rw [settingName, settingParts?_of_isWord h, List.singleton_append, Grammar.settingName,
      run_bind_of_ok (settingBase_run_word _ _), run_bind_of_ok hs, run_pure, String.append_empty]
  · simp only [settingName, hp, List.cons_append, List.nil_append]
    rw [Grammar.settingName, run_bind_of_ok (settingBase_run_parenthesized _ _),
      run_bind_of_ok (selectors_run hb rest), run_pure, ← he]

theorem constant_run (value : String) (d : Delimiter) (rest : List Lexeme) :
    constant.run (literal value :: ofDelimiter d :: rest) = .ok (value, ofDelimiter d :: rest) := by
  have hsign : isSignBeforeWord (literal value :: ofDelimiter d :: rest) = false := rfl
  rw [constant, look_bind_run, hsign, if_neg Bool.false_ne_true,
    look_bind_run, kindAt_cons_zero, kind_literal]
  exact literal_run value d rest

theorem setting_run {s : Setting} (h : s.IsPrintable) (rest : List Lexeme) :
    setting.run (s.lexemes ++ rest) = .ok (s, rest) := by
  simp only [Setting.lexemes, List.cons_append, List.append_assoc, List.nil_append]
  rw [setting, run_bind_of_ok (keyword_run _ _), run_bind_of_ok (settingName_run h.1 _),
    run_bind_of_ok (delimiter_run _ _), run_bind_of_ok (constant_run _ _ _),
    run_bind_of_ok (delimiter_run _ _), run_pure]

/-! ## Fields -/

theorem labelIf_run_bare {ahead : List Lexeme → Option Label} {ts : List Lexeme}
    (h : ahead ts = none) : (labelIf ahead).run ts = .ok (.bare, ts) := by
  rw [labelIf, look_bind_run, h]
  rfl

theorem labelIf_run_mark {ahead : List Lexeme → Option Label} {k : Keyword} {label : Label}
    {ts : List Lexeme} (h : ahead (mark k :: ts) = some label) :
    (labelIf ahead).run (mark k :: ts) = .ok (label, ts) := by
  rw [labelIf, look_bind_run, h]
  rfl

theorem label_cases (label : Label) : label = .bare ∨
    ∃ k, label.lexemes = [mark k] ∧ labelOf? (.keyword k) = some label := by
  cases label with
  | bare => exact .inl rfl
  | repeated => exact .inr ⟨.repeated, rfl, rfl⟩
  | optional => exact .inr ⟨.optional, rfl, rfl⟩
  | required => exact .inr ⟨.required, rfl, rfl⟩

theorem ne_of_labelOf? {k k' : Keyword} {label : Label} (h : labelOf? (.keyword k) = some label)
    (h' : labelOf? (.keyword k') = none) : k ≠ k' := by
  rintro rfl
  rw [h] at h'
  cases h'

theorem field_run {f : Field} (h : f.IsPrintable) (rest : List Lexeme) :
    field.run (f.lexemes ++ rest) = .ok (f, rest) := by
  obtain ⟨_, _, hn, hr, _, _⟩ := h
  have hlabel : (labelIf fieldLabel).run (f.lexemes ++ rest) = .ok (f.label, ofWord f.typeName ::
      ofWord f.name :: ofDelimiter .equals :: numeral f.number :: ofDelimiter .semicolon :: rest) := by
    rcases label_cases f.label with hb | ⟨k, hl, ho⟩
    · rw [Field.lexemes, hb]
      exact labelIf_run_bare (by simp [fieldLabel, Kind.isWord, Label.lexemes])
    · rw [Field.lexemes, hl]
      exact labelIf_run_mark (by simp [fieldLabel, ho])
  rw [field, run_bind_of_ok hlabel, run_bind_of_ok (word_run _ _), run_bind_of_ok (word_run _ _),
    run_bind_of_ok (numbering_run hn (by decide) _), run_bind_of_ok (delimiter_run _ _), run_pure,
    ← hr]

theorem startsGroup_cons (t : Lexeme) (ts : List Lexeme) :
    startsGroup (t :: ts) = if (labelOf? t.kind).isSome then
        kindAt ts 0 = .keyword .group && (kindAt ts 1).isWord && kindAt ts 2 = .delimiter .equals
      else t.kind = .keyword .group && (kindAt ts 0).isWord && kindAt ts 1 = .delimiter .equals := by
  by_cases h : (labelOf? t.kind).isSome = true <;> simp [startsGroup, h]

/-- No other declaration starts like a field. -/
structure LooksLikeField (ts : List Lexeme) : Prop where
  isWord : (kindAt ts 0).isWord = true
  semicolon : kindAt ts 0 ≠ .delimiter .semicolon
  option : kindAt ts 0 ≠ .keyword .option
  reserved : kindAt ts 0 = .keyword .reserved → kindAt ts 2 = .delimiter .equals
  extensions : kindAt ts 1 ≠ .number
  map : kindAt ts 1 ≠ .delimiter .langle
  group : startsGroup ts = false
  block : ∀ k, startsBlock k ts = false

theorem looksLikeField {f : Field} (h : f.IsPrintable) (rest : List Lexeme) :
    LooksLikeField (f.lexemes ++ rest) := by
  obtain ⟨_, _, _, _, hg, ho⟩ := h
  have hgroup : (ofWord f.typeName).kind ≠ .keyword .group := mt kind_ofWord_eq_keyword.1 hg
  rcases label_cases f.label with hb | ⟨k, hl, hk⟩
  · have hoption : (ofWord f.typeName).kind ≠ .keyword .option :=
      mt kind_ofWord_eq_keyword.1 (ho hb)
    rw [Field.lexemes, hb]
    constructor
    case group =>
      rw [Label.lexemes, List.nil_append, List.cons_append, startsGroup_cons]
      split <;> simp [hgroup, Kind.isWord]
    all_goals simp [Label.lexemes, startsBlock, hoption]
  · have hoption : k ≠ .option := ne_of_labelOf? hk rfl
    have hreserved : k ≠ .reserved := ne_of_labelOf? hk rfl
    rw [Field.lexemes, hl]
    constructor <;> simp [startsBlock, startsGroup, hk, hoption, hreserved, hgroup, Kind.isWord]

theorem mapField_run {f : MapField} (h : f.IsPrintable) (rest : List Lexeme) :
    mapField.run (f.lexemes ++ rest) = .ok (f, rest) := by
  obtain ⟨_, _, _, hn⟩ := h
  simp only [MapField.lexemes, List.cons_append, List.nil_append]
  rw [mapField, run_bind_of_ok (keyword_run _ _), run_bind_of_ok (delimiter_run _ _),
    run_bind_of_ok (word_run _ _), run_bind_of_ok (delimiter_run _ _),
    run_bind_of_ok (word_run _ _), run_bind_of_ok (delimiter_run _ _),
    run_bind_of_ok (word_run _ _), run_bind_of_ok (numbering_run hn (by decide) _),
    run_bind_of_ok (delimiter_run _ _), run_pure]

theorem group_run {g : Group} (hn : IsFieldNumber g.number) (rest : List Lexeme) :
    group.run (g.lexemes ++ rest) = .ok (g, rest) := by
  have hlabel : (labelIf fun ts => labelOf? (kindAt ts 0)).run (g.lexemes ++ rest) =
      .ok (g.label, mark .group :: ofWord g.name :: ofDelimiter .equals :: numeral g.number ::
        (bracedWith [] ++ rest)) := by
    rcases label_cases g.label with hb | ⟨k, hl, ho⟩
    · rw [Group.lexemes, hb]
      exact labelIf_run_bare rfl
    · rw [Group.lexemes, hl]
      exact labelIf_run_mark ho
  have hbody : numbering.run (ofDelimiter .equals :: numeral g.number :: (bracedWith [] ++ rest)) =
      .ok (g.number, bracedWith [] ++ rest) := numbering_run hn (by decide) _
  rw [group, run_bind_of_ok hlabel, run_bind_of_ok (keyword_run _ _), run_bind_of_ok (word_run _ _),
    run_bind_of_ok hbody, run_bind_of_ok (empty_braces_run rest), run_pure]

/-! ## Oneofs and enumerations -/

theorem oneofItem_run {f : Field} (h : f.IsPrintable) (rest : List Lexeme) :
    oneofItem.run (f.lexemes ++ rest) = .ok (some f, rest) := by
  have hl := looksLikeField h rest
  rw [oneofItem, look_bind_run, if_neg hl.semicolon, if_neg hl.option,
    look_bind_run, hl.group, if_neg Bool.false_ne_true, if_pos hl.isWord]
  exact map_run some (field_run h rest)

theorem opensItem_field (f : Field) : OpensItem f.lexemes := by
  rcases label_cases f.label with hb | ⟨k, hl, _⟩
  · rw [Field.lexemes, hb]
    exact ⟨_, _, rfl, kind_ofWord_ne_delimiter _ _⟩
  · rw [Field.lexemes, hl]
    exact ⟨_, _, rfl, nofun⟩

theorem oneof_run {o : Oneof} (h : ∀ f ∈ o.fields, f.IsPrintable) (rest : List Lexeme) :
    oneof.run (o.lexemes ++ rest) = .ok (o, rest) := by
  have hitems : (braced oneofItem oneofItem_consuming).run
      (bracedWith (o.fields.flatMap Field.lexemes) ++ rest) = .ok (o.fields.map id, rest) :=
    braced_run (fun f hf => oneofItem_run (h f hf)) (fun f _ => opensItem_field f) rest
  rw [List.map_id] at hitems
  simp only [Oneof.lexemes, List.cons_append]
  rw [oneof, run_bind_of_ok (keyword_run _ _), run_bind_of_ok (word_run _ _),
    run_bind_of_ok hitems, run_pure]

/-- A value may be `reserved`, since the equals sign follows it. -/
theorem enumItem_run {value : String × Nat} (h : value.1 ≠ Keyword.option.text)
    (rest : List Lexeme) : enumItem.run (enumValue value ++ rest) = .ok (some value.1, rest) := by
  have hoption : (ofWord value.1).kind ≠ .keyword .option := mt kind_ofWord_eq_keyword.1 h
  have hw := isWord_kind_ofWord value.1
  simp only [enumValue, List.cons_append, List.nil_append]
  rw [enumItem, look_bind_run, kindAt_cons_zero,
    if_neg (kind_ofWord_ne_delimiter _ _), if_neg hoption, look_bind_run,
    kindAt_cons_succ, kindAt_cons_zero, kind_ofDelimiter, if_neg (by simp), if_pos hw,
    run_bind_of_ok (word_run _ _), run_bind_of_ok (delimiter_run _ _),
    run_bind_of_ok (expect_number_run _ _), run_bind_of_ok (fieldSettings_run (by decide) _),
    run_bind_of_ok (delimiter_run _ _), run_pure]

theorem enumeration_run {e : Enumeration} (h : e.IsPrintable) (rest : List Lexeme) :
    enumeration.run (e.lexemes ++ rest) = .ok (e, rest) := by
  have hitem : ∀ v ∈ e.values.zipIdx, ∀ rest,
      enumItem.run (enumValue v ++ rest) = .ok (some v.1, rest) := fun v hv =>
    enumItem_run (h.2 _ (List.fst_mem_of_mem_zipIdx hv)).2
  have hopens : ∀ v ∈ e.values.zipIdx, OpensItem (enumValue v) := fun v _ =>
    ⟨_, _, rfl, kind_ofWord_ne_delimiter _ _⟩
  have hitems : (braced enumItem enumItem_consuming).run
      (bracedWith (e.values.zipIdx.flatMap enumValue) ++ rest) =
        .ok (e.values.zipIdx.map Prod.fst, rest) := braced_run hitem hopens rest
  rw [List.zipIdx_map_fst] at hitems
  simp only [Enumeration.lexemes, List.cons_append]
  rw [enumeration, run_bind_of_ok (keyword_run _ _), run_bind_of_ok (word_run _ _),
    run_bind_of_ok hitems, run_pure]

theorem extend_run (extendee : String) (rest : List Lexeme) :
    extend.run (mark .extend :: ofWord extendee :: (bracedWith [] ++ rest)) =
      .ok (extendee, rest) := by
  rw [extend, run_bind_of_ok (keyword_run _ _), run_bind_of_ok (word_run _ _),
    run_bind_of_ok (empty_braces_run rest), run_pure]

end ServiceScaffold.Schema.Printing

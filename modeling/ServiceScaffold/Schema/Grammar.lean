import ServiceScaffold.Schema.Declaration
import ServiceScaffold.Schema.Lexer
import ServiceScaffold.Schema.Parser

/-!
# The grammar of a schema file

One parser for each kind of declaration. Where a keyword may also be a name, the lexemes behind
it decide: the tests that look at them stand apart from the parsers that take them. Each parser
that a loop calls takes at least one lexeme, which its `_consuming` lemma says.

Messages are read however deep they are nested. That an interpreter allows only so many nested
calls, here and in all that goes down a file, is not modelled.
-/
namespace ServiceScaffold.Schema.Grammar
open Schema.Parser

/-! ## What lies ahead -/

def kindAt (ts : List Lexeme) (i : Nat) : Kind :=
  match ts[i]? with
  | some t => t.kind
  | none => .endOfInput

/-- A keyword, a name and an opening brace. -/
def startsBlock (k : Keyword) (ts : List Lexeme) : Bool :=
  kindAt ts 0 = .keyword k && (kindAt ts 1).isWord && kindAt ts 2 = .delimiter .lbrace

def labelOf? : Kind → Option Label
  | .keyword .repeated => some .repeated
  | .keyword .optional => some .optional
  | .keyword .required => some .required
  | _ => none

def startsGroup (ts : List Lexeme) : Bool :=
  let i := if (labelOf? (kindAt ts 0)).isSome then 1 else 0
  kindAt ts i = .keyword .group && (kindAt ts (i + 1)).isWord
    && kindAt ts (i + 2) = .delimiter .equals

/-- The label of a field. A word that only looks like one is the field's type, so that two words
have to follow a label. -/
def fieldLabel (ts : List Lexeme) : Option Label :=
  if (kindAt ts 1).isWord && (kindAt ts 2).isWord then labelOf? (kindAt ts 0) else none

def startsStream (ts : List Lexeme) : Bool :=
  kindAt ts 0 = .keyword .stream && (kindAt ts 1).isWord

/-! ## Constants -/

def literal : Parser String := do
  let first ← expect .string
  let more ← textWhile (·.is .string)
  pure (first ++ more)

/-- A part of a name that comes as a lexeme of its own, since it starts with a dot. -/
def isSelector (l : Lexeme) : Bool :=
  l.is .ident && l.text.toList.head? = some '.'

def settingBase : Parser String := do
  match ← look (kindAt · 0) with
  | .delimiter .lparen => do
    let _ ← delimiter .lparen
    let inner ← word
    let _ ← delimiter .rparen
    pure ("(" ++ inner ++ ")")
  | _ => satisfy Kind.isWord .expectedSettingName

def settingName : Parser String := do
  let base ← settingBase
  let selectors ← textWhile isSelector
  pure (base ++ selectors)

def isSignBeforeWord (ts : List Lexeme) : Bool :=
  match ts with
  | t :: next :: _ => t.is .symbol && (t.text = "-" || t.text = "+") && next.isWord
  | _ => false

def constant : Parser String := do
  if ← look isSignBeforeWord then
    let sign ← expect .symbol
    let name ← word
    pure (sign ++ name)
  else
    match ← look (kindAt · 0) with
    | .string => literal
    | .delimiter .lbrace => balanced .lbrace .rbrace
    | _ => satisfy (fun k => k = .number || k.isWord) .expectedConstant

def setting : Parser Setting := do
  let _ ← keyword .option
  let name ← settingName
  let _ ← delimiter .equals
  let value ← constant
  let _ ← delimiter .semicolon
  pure ⟨name, value⟩

/-! ## Fields -/

def fieldSettings : Parser Unit := do
  let kind ← look (kindAt · 0)
  if kind = .delimiter .lbracket then
    let _ ← balanced .lbracket .rbracket
    pure ()
  else pure ()

/-- What stands from the equals sign to the bracketed settings. -/
def numbering : Parser Int := do
  let _ ← delimiter .equals
  let number ← fieldNumber
  fieldSettings
  pure number

def labelIf (ahead : List Lexeme → Option Label) : Parser Label := do
  match ← look ahead with
  | some label => do
    let _ ← word
    pure label
  | none => pure .bare

def field : Parser Field := do
  let label ← labelIf fieldLabel
  let typeName ← word
  let name ← word
  let number ← numbering
  let _ ← delimiter .semicolon
  pure ⟨typeName, name, number, label = .repeated, label⟩

def mapField : Parser MapField := do
  let _ ← keyword .map
  let _ ← delimiter .langle
  let keyType ← word
  let _ ← delimiter .comma
  let valueType ← word
  let _ ← delimiter .rangle
  let name ← word
  let number ← numbering
  let _ ← delimiter .semicolon
  pure ⟨keyType, valueType, name, number⟩

def group : Parser Group := do
  let label ← labelIf fun ts => labelOf? (kindAt ts 0)
  let _ ← keyword .group
  let name ← word
  let number ← numbering
  let _ ← balanced .lbrace .rbrace
  pure ⟨name, number, label⟩

/-! ## Blocks -/

def blank : Parser (Option α) := do
  let _ ← delimiter .semicolon
  pure none

def oneofItem : Parser (Option Field) := do
  let kind ← look (kindAt · 0)
  if kind = .delimiter .semicolon then blank
  else if kind = .keyword .option then
    let _ ← setting
    pure none
  else if ← look startsGroup then
    let _ ← group
    pure none
  else if kind.isWord then some <$> field
  else refuse (.unexpected · .oneof)

def enumItem : Parser (Option String) := do
  let kind ← look (kindAt · 0)
  if kind = .delimiter .semicolon then blank
  else if kind = .keyword .option then
    let _ ← setting
    pure none
  else if kind = .keyword .reserved && (← look (kindAt · 1)) ≠ .delimiter .equals then
    let _ ← keyword .reserved
    let _ ← statementText
    pure none
  else if kind.isWord then
    let value ← word
    let _ ← delimiter .equals
    let _ ← expect .number
    fieldSettings
    let _ ← delimiter .semicolon
    pure (some value)
  else refuse (.unexpected · .enumeration)

def rpcItem : Parser (Option Setting) := do
  let kind ← look (kindAt · 0)
  if kind = .keyword .option then some <$> setting
  else if kind = .delimiter .semicolon then blank
  else refuse (.unexpected · .rpc)

section Progress

theorem setting_consuming : Consuming setting :=
  (keyword_consuming _).bind _

theorem field_consuming : Consuming field :=
  .bind_right _ fun _ => word_consuming.bind _

theorem group_consuming : Consuming group :=
  .bind_right _ fun _ => (keyword_consuming _).bind _

theorem mapField_consuming : Consuming mapField :=
  (keyword_consuming _).bind _

theorem blank_consuming {α : Type} : Consuming (blank : Parser (Option α)) :=
  (delimiter_consuming _).bind _

theorem Consuming.map {α β : Type} {p : Parser α} (h : Consuming p) (f : α → β) :
    Consuming (f <$> p) := by
  rw [← bind_pure_comp]
  exact h.bind _

theorem oneofItem_consuming : Consuming oneofItem :=
  .bind_right _ fun _ =>
    .ite blank_consuming <| .ite (setting_consuming.bind _) <| .bind_right _ fun _ =>
      .ite (group_consuming.bind _) <| .ite (Consuming.map field_consuming _)
        (refuse_consuming _)

theorem enumItem_consuming : Consuming enumItem :=
  .bind_right _ fun _ =>
    .ite blank_consuming <| .ite (setting_consuming.bind _) <| .bind_right _ fun _ =>
      .ite ((keyword_consuming _).bind _) <| .ite (word_consuming.bind _) (refuse_consuming _)

theorem rpcItem_consuming : Consuming rpcItem :=
  .bind_right _ fun _ =>
    .ite (Consuming.map setting_consuming _) <| .ite blank_consuming (refuse_consuming _)

end Progress

def oneof : Parser Oneof := do
  let _ ← keyword .oneof
  let name ← word
  let fields ← braced oneofItem oneofItem_consuming
  pure ⟨name, fields⟩

def enumeration : Parser Enumeration := do
  let _ ← keyword .enumeration
  let name ← word
  let values ← braced enumItem enumItem_consuming
  pure ⟨name, values⟩

/-- An extension's body is skipped. -/
def extend : Parser String := do
  let _ ← keyword .extend
  let extendee ← word
  let _ ← balanced .lbrace .rbrace
  pure extendee

/-! ## Messages -/

/-- What a place in a message body holds: nothing of note, an element, or the start of a nested
message. -/
inductive Entry where
  | blank
  | element (e : MessageElement)
  | opens (name : String)

def entry : Parser Entry := do
  let kind ← look (kindAt · 0)
  if kind = .delimiter .semicolon then
    let _ ← delimiter .semicolon
    pure .blank
  else if ← look (startsBlock .message) then
    let _ ← keyword .message
    let name ← word
    let _ ← delimiter .lbrace
    pure (.opens name)
  else if ← look (startsBlock .enumeration) then
    return .element (.statement (.enumeration (← enumeration)))
  else if ← look (startsBlock .oneof) then
    return .element (.oneof (← oneof))
  else if ← look (startsBlock .extend) then
    return .element (.statement (.extend (← extend)))
  else if kind = .keyword .option then
    return .element (.setting (← setting))
  else if kind = .keyword .reserved && (← look (kindAt · 2)) ≠ .delimiter .equals then
    let _ ← keyword .reserved
    return .element (.statement (.reserved (← statementText)))
  else if kind = .keyword .extensions && (← look (kindAt · 1)) = .number then
    let _ ← keyword .extensions
    return .element (.statement (.extensions (← statementText)))
  else if kind = .keyword .map && (← look (kindAt · 1)) = .delimiter .langle then
    return .element (.statement (.mapField (← mapField)))
  else if ← look startsGroup then
    return .element (.statement (.group (← group)))
  else if kind.isWord then
    return .element (.statement (.field (← field)))
  else refuse (.unexpected · .message)

theorem entry_consuming : Consuming entry :=
  .bind_right _ fun _ => .ite ((delimiter_consuming _).bind _) <|
    .bind_right _ fun _ => .ite ((keyword_consuming _).bind _) <|
    .bind_right _ fun _ => .ite (((keyword_consuming _).bind _).bind _) <|
    .bind_right _ fun _ => .ite (((keyword_consuming _).bind _).bind _) <|
    .bind_right _ fun _ => .ite (((keyword_consuming _).bind _).bind _) <|
    .ite (setting_consuming.bind _) <|
    .bind_right _ fun _ => .ite ((keyword_consuming _).bind _) <|
    .bind_right _ fun _ => .ite ((keyword_consuming _).bind _) <|
    .bind_right _ fun _ => .ite (mapField_consuming.bind _) <|
    .bind_right _ fun _ => .ite (group_consuming.bind _) <|
    .ite (field_consuming.bind _) (refuse_consuming _)

/-- The elements of a message up to its closing brace. -/
def elementsFrom (ts : List Lexeme) :
    Except Fault { r : List MessageElement × List Lexeme // r.2 <:+ ts } :=
  if atBodyEnd ts then .ok ⟨([], ts), List.suffix_refl _⟩
  else
    match he : entry.run ts with
    | .error e => .error e
    | .ok (.blank, rest) =>
      have := entry_consuming he
      match elementsFrom rest with
      | .error e => .error e
      | .ok ⟨(es, rest'), h⟩ => .ok ⟨(es, rest'), h.trans (entry.suffix he)⟩
    | .ok (.element e, rest) =>
      have := entry_consuming he
      match elementsFrom rest with
      | .error e => .error e
      | .ok ⟨(es, rest'), h⟩ => .ok ⟨(e :: es, rest'), h.trans (entry.suffix he)⟩
    | .ok (.opens name, rest) =>
      have := entry_consuming he
      match elementsFrom rest with
      | .error e => .error e
      | .ok ⟨(inner, mid), hmid⟩ =>
        match hc : (delimiter .rbrace).run mid with
        | .error e => .error e
        | .ok (_, after) =>
          have : mid.length ≤ rest.length := hmid.length_le
          have := delimiter_consuming _ hc
          match elementsFrom after with
          | .error e => .error e
          | .ok ⟨(es, rest'), h⟩ =>
            .ok ⟨(.message name inner :: es, rest'),
              ((h.trans ((delimiter _).suffix hc)).trans hmid).trans (entry.suffix he)⟩
termination_by ts.length
decreasing_by all_goals omega

def elements : Parser (List MessageElement) where
  run ts :=
    match elementsFrom ts with
    | .error e => .error e
    | .ok r => .ok r.1
  suffix := by
    intro ts a rest h
    split at h
    · cases h
    · next r _ =>
      have e : r.1.2 = rest := congrArg Prod.snd (Except.ok.inj h)
      exact e ▸ r.2

def message : Parser Message := do
  let _ ← keyword .message
  let name ← word
  let _ ← delimiter .lbrace
  let es ← elements
  let _ ← delimiter .rbrace
  pure ⟨name, es⟩

/-! ## Services -/

def streamMark : Parser Bool := do
  if ← look startsStream then
    let _ ← word
    pure true
  else pure false

/-- A type in parentheses, with the mark of a stream. -/
def rpcType : Parser (Bool × String) := do
  let _ ← delimiter .lparen
  let streams ← streamMark
  let typeName ← word
  let _ ← delimiter .rparen
  pure (streams, typeName)

def rpcSettings (rpc : String) : Parser (List Setting) := do
  match ← look (kindAt · 0) with
  | .delimiter .semicolon => do
    let _ ← delimiter .semicolon
    pure []
  | .delimiter .lbrace => braced rpcItem rpcItem_consuming
  | _ => refuse (.expectedRpcEnd rpc)

def rpc : Parser Rpc := do
  let _ ← keyword .rpc
  let name ← word
  let (requestStream, requestType) ← rpcType
  let _ ← keyword .returns
  let (responseStream, responseType) ← rpcType
  let settings ← rpcSettings name
  pure ⟨name, requestType, responseType, requestStream, responseStream, settings⟩

def serviceItem : Parser (Option ServiceElement) := do
  let kind ← look (kindAt · 0)
  if kind = .delimiter .semicolon then blank
  else if kind = .keyword .option then (some ∘ .setting) <$> setting
  else if kind = .keyword .rpc then (some ∘ .rpc) <$> rpc
  else refuse (.unexpected · .service)

theorem rpc_consuming : Consuming rpc :=
  (keyword_consuming _).bind _

theorem serviceItem_consuming : Consuming serviceItem :=
  .bind_right _ fun _ =>
    .ite blank_consuming <| .ite (Consuming.map setting_consuming _) <|
      .ite (Consuming.map rpc_consuming _) (refuse_consuming _)

def service : Parser Service := do
  let _ ← keyword .service
  let name ← word
  let elements ← braced serviceItem serviceItem_consuming
  pure ⟨name, elements⟩

/-! ## Files -/

/-- The line that names the dialect or the edition of the file. -/
def dialect : Parser String := do
  let _ ← word
  let _ ← delimiter .equals
  let value ← literal
  let _ ← delimiter .semicolon
  pure value

def package : Parser String := do
  let _ ← keyword .package
  let name ← word
  let _ ← delimiter .semicolon
  pure name

def importKind (ts : List Lexeme) : ImportKind :=
  match ts with
  | t :: _ =>
    if t = ⟨.ident, "public"⟩ then .reexported
    else if t = ⟨.ident, "weak"⟩ then .weak
    else .plain
  | [] => .plain

def importMark : Parser ImportKind := do
  let kind ← look importKind
  if kind = .plain then pure kind
  else
    let _ ← word
    pure kind

def importing : Parser Import := do
  let _ ← keyword .importMark
  let kind ← importMark
  let path ← literal
  let _ ← delimiter .semicolon
  pure ⟨path, kind⟩

def declaration : Parser (Option Declaration) := do
  match ← look (kindAt · 0) with
  | .keyword .syntaxMark => (some ∘ .statement ∘ .dialect) <$> dialect
  | .keyword .edition => (some ∘ .statement ∘ .dialect) <$> dialect
  | .keyword .package => (some ∘ .statement ∘ .package) <$> package
  | .keyword .importMark => (some ∘ .statement ∘ .importing) <$> importing
  | .keyword .option => (some ∘ .setting) <$> setting
  | .keyword .message => (some ∘ .message) <$> message
  | .keyword .enumeration => (some ∘ .statement ∘ .enumeration) <$> enumeration
  | .keyword .service => (some ∘ .service) <$> service
  | .keyword .extend => (some ∘ .statement ∘ .extend) <$> extend
  | .delimiter .semicolon => blank
  | _ => refuse (.unexpected · .file)

theorem declaration_consuming : Consuming declaration := by
  refine .bind_right _ fun k => ?_
  split
  · exact Consuming.map (word_consuming.bind _) _
  · exact Consuming.map (word_consuming.bind _) _
  · exact Consuming.map ((keyword_consuming _).bind _) _
  · exact Consuming.map ((keyword_consuming _).bind _) _
  · exact Consuming.map setting_consuming _
  · exact Consuming.map ((keyword_consuming _).bind _) _
  · exact Consuming.map ((keyword_consuming _).bind _) _
  · exact Consuming.map ((keyword_consuming _).bind _) _
  · exact Consuming.map ((keyword_consuming _).bind _) _
  · exact blank_consuming
  · exact refuse_consuming _

/-- Declarations up to the end of the input. -/
def declarations : Parser File :=
  items (fun _ => false) declaration declaration_consuming

def file (ts : List Lexeme) : Except Fault File :=
  (declarations.run ts).map Prod.fst

end Grammar

/-- A cause and the place of what is blamed for it. -/
structure Located where
  cause : Cause
  position : Position
  deriving DecidableEq, Repr

def readTokens (text : String) : Except Located Tokens :=
  match Tokens.ofText text with
  | .ok tokens => .ok tokens
  | .error p => .error ⟨.unterminatedString, p⟩

/-- The declarations of a schema's text. -/
def File.ofText (text : String) : Except Located File := do
  let tokens ← readTokens text
  match Grammar.file tokens.lexemes with
  | .ok f => .ok f
  | .error fault => .error ⟨fault.cause, tokens.place fault.remaining⟩

end ServiceScaffold.Schema

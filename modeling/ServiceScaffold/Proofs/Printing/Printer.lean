import ServiceScaffold.Proofs.Printing.Layout
import ServiceScaffold.Proofs.Schema.Placement

/-!
# Printing a schema

`File.text` writes a schema down: one way for each declaration, with the values of enumerations
numbered and the bodies of groups and extensions left empty. What can be printed so that it reads
back is `File.IsPrintable`. Names may be any words, keywords too, but for the few that would be
taken for the start of another declaration.
-/
namespace ServiceScaffold.Schema
open Printing
open Lexeme (ofWord ofDelimiter)

/-! ## Lexemes -/

namespace Printing

def mark (k : Keyword) : Lexeme := ⟨.keyword k, k.text⟩

def numeral (n : Int) : Lexeme := ⟨.number, n.toNat.repr⟩

def literal (s : String) : Lexeme := ⟨.string, s⟩

/-- What stands in the parentheses that a name opens with, and what stands behind them. -/
def settingParts? (name : String) : Option (String × String) :=
  match name.toList with
  | '(' :: cs =>
    match cs.dropWhile (· ≠ ')') with
    | _ :: behind => some (String.ofList (cs.takeWhile (· ≠ ')')), String.ofList behind)
    | [] => none
  | _ => none

def settingName (name : String) : List Lexeme :=
  match settingParts? name with
  | some (inner, behind) =>
    [ofDelimiter .lparen, ofWord inner, ofDelimiter .rparen]
      ++ if behind = "" then [] else [ofWord behind]
  | none => [ofWord name]

/-- The parts of the text between blanks. -/
def parts (text : String) : List String :=
  (Text.segments ' ' text.toList).map String.ofList

/-- A part of a list of ranges. -/
def rangePart (part : String) : Lexeme :=
  if IsNumeral part then ⟨.number, part⟩
  else if part = "," then ofDelimiter .comma
  else ofWord part

def bracedWith (ls : List Lexeme) : List Lexeme :=
  ofDelimiter .lbrace :: (ls ++ [ofDelimiter .rbrace])

end Printing

def Setting.lexemes (s : Setting) : List Lexeme :=
  mark .option :: (settingName s.name ++ [ofDelimiter .equals, literal s.value,
    ofDelimiter .semicolon])

def Label.lexemes : Label → List Lexeme
  | .bare => []
  | .repeated => [mark .repeated]
  | .optional => [mark .optional]
  | .required => [mark .required]

def Field.lexemes (f : Field) : List Lexeme :=
  f.label.lexemes ++ [ofWord f.typeName, ofWord f.name, ofDelimiter .equals, numeral f.number,
    ofDelimiter .semicolon]

def MapField.lexemes (f : MapField) : List Lexeme :=
  [mark .map, ofDelimiter .langle, ofWord f.keyType, ofDelimiter .comma, ofWord f.valueType,
    ofDelimiter .rangle, ofWord f.name, ofDelimiter .equals, numeral f.number,
    ofDelimiter .semicolon]

def Group.lexemes (g : Group) : List Lexeme :=
  g.label.lexemes ++ mark .group :: ofWord g.name :: ofDelimiter .equals :: numeral g.number ::
    bracedWith []

def Oneof.lexemes (o : Oneof) : List Lexeme :=
  mark .oneof :: ofWord o.name :: bracedWith (o.fields.flatMap Field.lexemes)

/-- Each value is numbered by its place. -/
def enumValue (value : String × Nat) : List Lexeme :=
  [ofWord value.1, ofDelimiter .equals, numeral value.2, ofDelimiter .semicolon]

def Enumeration.lexemes (e : Enumeration) : List Lexeme :=
  mark .enumeration :: ofWord e.name :: bracedWith (e.values.zipIdx.flatMap enumValue)

def ImportKind.lexemes : ImportKind → List Lexeme
  | .plain => []
  | .reexported => [ofWord "public"]
  | .weak => [ofWord "weak"]

def Statement.lexemes : Statement → List Lexeme
  | .dialect value =>
    [mark .syntaxMark, ofDelimiter .equals, literal value, ofDelimiter .semicolon]
  | .package name => [mark .package, ofWord name, ofDelimiter .semicolon]
  | .importing i =>
    mark .importMark :: (i.kind.lexemes ++ [literal i.path, ofDelimiter .semicolon])
  | .field f => f.lexemes
  | .mapField f => f.lexemes
  | .group g => g.lexemes
  | .enumeration e => e.lexemes
  | .reserved text => [mark .reserved, literal text, ofDelimiter .semicolon]
  | .extensions text =>
    mark .extensions :: ((parts text).map rangePart ++ [ofDelimiter .semicolon])
  | .extend extendee => mark .extend :: ofWord extendee :: bracedWith []

mutual

def MessageElement.lexemes : MessageElement → List Lexeme
  | .statement s => s.lexemes
  | .oneof o => o.lexemes
  | .setting s => s.lexemes
  | .message name elements =>
    mark .message :: ofWord name :: bracedWith (elementLexemes elements)

def elementLexemes : List MessageElement → List Lexeme
  | [] => []
  | e :: es => e.lexemes ++ elementLexemes es

end

/-- A type of an rpc in its parentheses. -/
def rpcType (stream : Bool) (typeName : String) : List Lexeme :=
  ofDelimiter .lparen :: ((if stream then [mark .stream] else [])
    ++ [ofWord typeName, ofDelimiter .rparen])

def Rpc.lexemes (r : Rpc) : List Lexeme :=
  mark .rpc :: ofWord r.name :: (rpcType r.requestStream r.requestType
    ++ mark .returns :: (rpcType r.responseStream r.responseType
    ++ if r.settings = [] then [ofDelimiter .semicolon]
      else bracedWith (r.settings.flatMap Setting.lexemes)))

def ServiceElement.lexemes : ServiceElement → List Lexeme
  | .rpc r => r.lexemes
  | .setting s => s.lexemes

def Declaration.lexemes : Declaration → List Lexeme
  | .statement s => s.lexemes
  | .setting s => s.lexemes
  | .message m => mark .message :: ofWord m.name :: bracedWith (elementLexemes m.elements)
  | .service s =>
    mark .service :: ofWord s.name :: bracedWith (s.elements.flatMap ServiceElement.lexemes)

def File.lexemes (f : File) : List Lexeme :=
  f.flatMap Declaration.lexemes

/-- The schema as text. -/
def File.text (f : File) : String :=
  String.ofList (layout f.lexemes)

/-! ## What can be printed -/

/-- The numbers that a field may have: the positive ones of 29 bits. -/
def IsFieldNumber (n : Int) : Prop := 1 ≤ n ∧ n ≤ 0x1FFFFFFF

/-- A word, or one in parentheses, with further words behind it that start with a dot. -/
def IsSettingName (name : String) : Prop :=
  ∃ base selectors, IsWord base ∧ (∀ s ∈ selectors, IsWord s ∧ s.toList.head? = some '.') ∧
    (name = base ++ String.join selectors ∨ name = "(" ++ base ++ ")" ++ String.join selectors)

/-- Numerals, words and commas with a blank between any two, a numeral first. -/
def IsRangeList (text : String) : Prop :=
  (∃ first ∈ (parts text).head?, IsNumeral first) ∧
    ∀ part ∈ parts text, IsNumeral part ∨ IsWord part ∨ part = ","

def Setting.IsPrintable (s : Setting) : Prop :=
  IsSettingName s.name ∧ IsQuotable s.value

/-- A type `group` would start a group, and a bare type `option` a setting. -/
def Field.IsPrintable (f : Field) : Prop :=
  IsWord f.typeName ∧ IsWord f.name ∧ IsFieldNumber f.number ∧
    f.repeated = decide (f.label = .repeated) ∧ f.typeName ≠ Keyword.group.text ∧
    (f.label = .bare → f.typeName ≠ Keyword.option.text)

def MapField.IsPrintable (f : MapField) : Prop :=
  IsWord f.keyType ∧ IsWord f.valueType ∧ IsWord f.name ∧ IsFieldNumber f.number

/-- A value `option` would start a setting. -/
def Enumeration.IsPrintable (e : Enumeration) : Prop :=
  IsWord e.name ∧ ∀ v ∈ e.values, IsWord v ∧ v ≠ Keyword.option.text

def Statement.IsPrintable : Statement → Prop
  | .dialect value => IsQuotable value
  | .package name => IsWord name
  | .importing i => IsQuotable i.path
  | .field f => f.IsPrintable
  | .mapField f => f.IsPrintable
  | .group g => IsWord g.name ∧ IsFieldNumber g.number
  | .enumeration e => e.IsPrintable
  | .reserved text => IsQuotable text
  | .extensions text => IsRangeList text
  | .extend extendee => IsWord extendee

mutual

def MessageElement.IsPrintable : MessageElement → Prop
  | .statement s => s.standsInMessage = true ∧ s.IsPrintable
  | .oneof o => IsWord o.name ∧ ∀ f ∈ o.fields, f.IsPrintable
  | .setting s => s.IsPrintable
  | .message name elements => IsWord name ∧ ArePrintable elements

def ArePrintable : List MessageElement → Prop
  | [] => True
  | e :: es => e.IsPrintable ∧ ArePrintable es

end

def Rpc.IsPrintable (r : Rpc) : Prop :=
  IsWord r.name ∧ IsWord r.requestType ∧ IsWord r.responseType ∧ ∀ s ∈ r.settings, s.IsPrintable

def ServiceElement.IsPrintable : ServiceElement → Prop
  | .rpc r => r.IsPrintable
  | .setting s => s.IsPrintable

def Declaration.IsPrintable : Declaration → Prop
  | .statement s => s.standsInFile = true ∧ s.IsPrintable
  | .setting s => s.IsPrintable
  | .message m => IsWord m.name ∧ ArePrintable m.elements
  | .service s => IsWord s.name ∧ ∀ e ∈ s.elements, e.IsPrintable

/-- Names and types are words, texts can be quoted, numbers are those of fields, and no
declaration stands where it may not. -/
def File.IsPrintable (f : File) : Prop :=
  ∀ d ∈ f, d.IsPrintable

end ServiceScaffold.Schema

import ServiceScaffold.Schema.Fault
import ServiceScaffold.Schema.FieldNumber

/-!
# Readers of lexeme lists

A `Parser` reads lexemes from the front of a list and hands back the rest, which is a suffix of
the list by construction. Places play no part: a fault names its lexeme by what remains from it,
so what is read depends on the lexemes alone. A parser that takes at least one lexeme whenever
it succeeds is `Consuming`; loops take only such parsers.
-/
namespace ServiceScaffold.Schema

structure Parser (α : Type) where
  run : List Lexeme → Except Fault (α × List Lexeme)
  suffix : ∀ {ts a rest}, run ts = .ok (a, rest) → rest <:+ ts

namespace Parser

variable {α β : Type}

theorem length_le {p : Parser α} {ts : List Lexeme} {a : α} {rest : List Lexeme}
    (h : p.run ts = .ok (a, rest)) : rest.length ≤ ts.length :=
  (p.suffix h).length_le

instance : Monad Parser where
  pure a := ⟨fun ts => .ok (a, ts), by rintro ts a rest ⟨⟩; exact List.suffix_refl _⟩
  bind p f :=
    { run := fun ts =>
        match p.run ts with
        | .error e => .error e
        | .ok (a, rest) => (f a).run rest
      suffix := by
        intro ts b rest h
        split at h
        · cases h
        · next hp => exact ((f _).suffix h).trans (p.suffix hp) }

@[simp] theorem run_pure (a : α) (ts : List Lexeme) :
    (pure a : Parser α).run ts = .ok (a, ts) := rfl

theorem run_bind (p : Parser α) (f : α → Parser β) (ts : List Lexeme) :
    (p >>= f).run ts =
      match p.run ts with
      | .error e => .error e
      | .ok (a, rest) => (f a).run rest := rfl

theorem run_bind_eq_ok {p : Parser α} {f : α → Parser β} {ts rest : List Lexeme} {b : β} :
    (p >>= f).run ts = .ok (b, rest) ↔
      ∃ a mid, p.run ts = .ok (a, mid) ∧ (f a).run mid = .ok (b, rest) := by
  rw [run_bind]
  constructor
  · intro h
    split at h
    · cases h
    · next a mid hp => exact ⟨a, mid, hp, h⟩
  · rintro ⟨a, mid, hp, hf⟩
    rw [hp]
    exact hf

theorem ext {p q : Parser α} (h : ∀ ts, p.run ts = q.run ts) : p = q := by
  cases p
  cases q
  congr
  exact funext h

theorem map_id (p : Parser α) : id <$> p = p :=
  ext fun ts => by
    change (p >>= fun a => pure a).run ts = _
    rw [run_bind]
    split <;> simp_all

theorem bind_assoc {γ : Type} (p : Parser α) (f : α → Parser β) (g : β → Parser γ) :
    p >>= f >>= g = p >>= fun a => f a >>= g :=
  ext fun ts => by
    simp only [run_bind]
    cases p.run ts <;> rfl

instance : LawfulMonad Parser :=
  LawfulMonad.mk' Parser map_id (fun _ _ => ext fun _ => rfl) bind_assoc

/-! ## Progress -/

def Consuming (p : Parser α) : Prop :=
  ∀ ⦃ts a rest⦄, p.run ts = .ok (a, rest) → rest.length < ts.length

theorem Consuming.bind {p : Parser α} (h : Consuming p) (f : α → Parser β) :
    Consuming (p >>= f) := by
  intro ts b rest hb
  obtain ⟨a, mid, hp, hf⟩ := run_bind_eq_ok.1 hb
  exact Nat.lt_of_le_of_lt (length_le hf) (h hp)

theorem Consuming.bind_right (p : Parser α) {f : α → Parser β} (h : ∀ a, Consuming (f a)) :
    Consuming (p >>= f) := by
  intro ts b rest hb
  obtain ⟨a, mid, hp, hf⟩ := run_bind_eq_ok.1 hb
  exact Nat.lt_of_lt_of_le (h a hf) (length_le hp)

theorem Consuming.ite {c : Prop} [Decidable c] {p q : Parser α} (hp : Consuming p)
    (hq : Consuming q) : Consuming (if c then p else q) := by
  split <;> assumption

/-! ## Looking ahead and refusing -/

/-- A property of what lies ahead; nothing is taken. -/
def look (f : List Lexeme → β) : Parser β :=
  ⟨fun ts => .ok (f ts, ts), by rintro ts a rest ⟨⟩; exact List.suffix_refl _⟩

@[simp] theorem run_look (f : List Lexeme → β) (ts : List Lexeme) :
    (look f).run ts = .ok (f ts, ts) := rfl

def head (ts : List Lexeme) : Lexeme :=
  ts.head?.getD .endOfInput

/-- Refuses the lexeme that comes next. -/
def refuse (cause : Lexeme → Cause) : Parser α :=
  ⟨fun ts => .error ⟨cause (head ts), ts.length⟩, by rintro ts a rest ⟨⟩⟩

theorem refuse_consuming (cause : Lexeme → Cause) : Consuming (refuse cause : Parser α) := by
  rintro ts a rest ⟨⟩

/-! ## Single lexemes -/

/-- The text of the next lexeme, when its kind is a wanted one. -/
def satisfy (wanted : Kind → Bool) (cause : Lexeme → Cause) : Parser String where
  run ts :=
    match ts with
    | t :: rest =>
      if wanted t.kind then .ok (t.text, rest) else .error ⟨cause t, ts.length⟩
    | [] => .error ⟨cause .endOfInput, 0⟩
  suffix := by
    intro ts a rest h
    split at h
    · split at h
      · cases h
        exact List.suffix_cons _ _
      · cases h
    · cases h

theorem satisfy_consuming (wanted : Kind → Bool) (cause : Lexeme → Cause) :
    Consuming (satisfy wanted cause) := by
  intro ts a rest h
  cases ts with
  | nil => cases h
  | cons t ts =>
    simp only [satisfy] at h
    split at h
    · cases h
      exact Nat.lt_succ_self _
    · cases h

def expect (k : Kind) : Parser String :=
  satisfy (· = k) (.expected k)

def keyword (k : Keyword) : Parser String :=
  expect (.keyword k)

def delimiter (d : Delimiter) : Parser String :=
  expect (.delimiter d)

/-- A name. Every keyword serves as one. -/
def word : Parser String :=
  satisfy Kind.isWord (.expected .ident)

theorem expect_consuming (k : Kind) : Consuming (expect k) := satisfy_consuming ..

theorem keyword_consuming (k : Keyword) : Consuming (keyword k) := expect_consuming _

theorem delimiter_consuming (d : Delimiter) : Consuming (delimiter d) := expect_consuming _

theorem word_consuming : Consuming word := satisfy_consuming ..

/-- A numeric literal that stands for a positive number. -/
def fieldNumber : Parser Int where
  run ts :=
    match ts with
    | t :: rest =>
      if t.kind = .number then
        match FieldNumber.value? t.text.toList with
        | some n =>
          if 0 < n then .ok (n, rest) else .error ⟨.nonPositiveNumber t.text, ts.length⟩
        | none => .error ⟨.invalidNumber t.text, ts.length⟩
      else .error ⟨.expected .number t, ts.length⟩
    | [] => .error ⟨.expected .number .endOfInput, 0⟩
  suffix := by
    intro ts a rest h
    split at h
    · split at h
      · split at h
        · split at h <;> cases h
          exact List.suffix_cons _ _
        · cases h
      · cases h
    · cases h

/-! ## Runs of lexemes -/

/-- The texts, joined, of the lexemes that come first and have a property. -/
def textWhile (p : Lexeme → Bool) : Parser String :=
  ⟨fun ts => .ok (String.join ((ts.takeWhile p).map Lexeme.text), ts.dropWhile p),
    by rintro ts a rest ⟨⟩; exact List.dropWhile_suffix p⟩

def spaced (texts : List String) : String :=
  " ".intercalate texts

/-- The texts up to the semicolon that ends a statement; the semicolon is taken. -/
def statementText : Parser String where
  run ts :=
    match ts.dropWhile (!·.is (.delimiter .semicolon)) with
    | [] => .error ⟨.unfinishedStatement, 0⟩
    | _ :: rest =>
      .ok (spaced ((ts.takeWhile (!·.is (.delimiter .semicolon))).map Lexeme.text), rest)
  suffix := by
    intro ts a rest h
    split at h
    · cases h
    · next hd =>
      cases h
      exact (List.suffix_cons _ _).trans (hd ▸ List.dropWhile_suffix _)

/-- The lexemes up to the bracket that brings `depth + 1` open ones down to none, that bracket
among them, and what follows it. -/
def closeBrackets? (opening closing : Kind) (depth : Nat) :
    List Lexeme → Option (List Lexeme × List Lexeme)
  | [] => none
  | t :: ts =>
    let onward (d : Nat) :=
      (closeBrackets? opening closing d ts).map fun (taken, rest) => (t :: taken, rest)
    if t.kind = opening then onward (depth + 1)
    else if t.kind = closing then
      match depth with
      | 0 => some ([t], ts)
      | d + 1 => onward d
    else onward depth

theorem closeBrackets?_append {opening closing : Kind} {depth : Nat}
    {ts taken rest : List Lexeme}
    (h : closeBrackets? opening closing depth ts = some (taken, rest)) :
    taken ++ rest = ts := by
  induction ts generalizing depth taken with
  | nil => cases h
  | cons t ts ih =>
    have onward : ∀ {d}, (closeBrackets? opening closing d ts).map
        (fun (taken, rest) => (t :: taken, rest)) = some (taken, rest) →
        taken ++ rest = t :: ts := by
      intro d hd
      obtain ⟨⟨tk, r⟩, hr, he⟩ := Option.map_eq_some_iff.1 hd
      cases he
      simp [ih hr]
    simp only [closeBrackets?] at h
    split at h
    · exact onward h
    · split at h
      · cases depth with
        | zero => cases h; rfl
        | succ d => exact onward h
      · exact onward h

/-- A bracketed stretch with the brackets nested in it, as text. -/
def balanced (opening closing : Delimiter) : Parser String where
  run ts :=
    match ts with
    | t :: rest =>
      if t.kind = .delimiter opening then
        match closeBrackets? (.delimiter opening) (.delimiter closing) 0 rest with
        | some (taken, rest) => .ok (spaced ((t :: taken).map Lexeme.text), rest)
        | none => .error ⟨.unclosed t.text, ts.length⟩
      else .error ⟨.expected (.delimiter opening) t, ts.length⟩
    | [] => .error ⟨.expected (.delimiter opening) .endOfInput, 0⟩
  suffix := by
    intro ts a rest h
    split at h
    · split at h
      · split at h
        · next hc =>
          cases h
          exact ⟨_ :: _, by rw [List.cons_append, closeBrackets?_append hc]⟩
        · cases h
      · cases h
    · cases h

theorem balanced_consuming (opening closing : Delimiter) :
    Consuming (balanced opening closing) := by
  intro ts a rest h
  cases ts with
  | nil => cases h
  | cons t ts =>
    simp only [balanced] at h
    split at h
    · split at h
      · next hc =>
        cases h
        have := congrArg List.length (closeBrackets?_append hc)
        simp only [List.length_append] at this
        simp only [List.length_cons]
        omega
      · cases h
    · cases h

/-! ## Loops -/

/-- Whether a body ends here: at a closing brace or at the end of the input. -/
def atBodyEnd (ts : List Lexeme) : Bool :=
  match ts with
  | [] => true
  | t :: _ => t.is (.delimiter .rbrace)

/-- Reads items until `stop` holds or the input ends, and keeps those that yield something. -/
def itemsFrom (stop : List Lexeme → Bool) (item : Parser (Option α)) (h : Consuming item)
    (ts : List Lexeme) : Except Fault (List α × List Lexeme) :=
  if ts.isEmpty || stop ts then .ok ([], ts)
  else
    match hi : item.run ts with
    | .error e => .error e
    | .ok (a, rest) =>
      have := h hi
      (itemsFrom stop item h rest).map fun (as, rest) => (a.toList ++ as, rest)
termination_by ts.length

theorem itemsFrom_suffix {stop : List Lexeme → Bool} {item : Parser (Option α)}
    {h : Consuming item} {ts rest : List Lexeme} {as : List α}
    (hi : itemsFrom stop item h ts = .ok (as, rest)) : rest <:+ ts := by
  induction hn : ts.length using Nat.strongRecOn generalizing ts as with
  | ind n ih =>
    rw [itemsFrom] at hi
    split at hi
    · cases hi
      exact List.suffix_refl _
    · split at hi
      · cases hi
      · next a mid hm =>
        cases hr : itemsFrom stop item h mid with
        | error e => rw [hr] at hi; cases hi
        | ok r =>
          rw [hr] at hi
          cases hi
          exact (ih _ (hn ▸ h hm) hr rfl).trans (item.suffix hm)

def items (stop : List Lexeme → Bool) (item : Parser (Option α)) (h : Consuming item) :
    Parser (List α) :=
  ⟨itemsFrom stop item h, itemsFrom_suffix⟩

/-- Items between braces. -/
def braced (item : Parser (Option α)) (h : Consuming item) : Parser (List α) := do
  let _ ← delimiter .lbrace
  let as ← items atBodyEnd item h
  let _ ← delimiter .rbrace
  pure as

end Parser

end ServiceScaffold.Schema

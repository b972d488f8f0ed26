import ServiceScaffold.Proofs.Lexical.Tokens
import ServiceScaffold.Proofs.Schema.Concatenation

/-!
# The turns of the loops

A `Loop` is told by its exit and by what one turn does; `Loop.Runs` says of a function that it is
that loop, that each turn takes something, and that as many turns as there is left to take are
enough. All loops of the scanner and of the parsers are of this kind. The body of a message is the
loop over `elementTurn`, which calls it for what is nested (`elements_eq_items`).
-/
namespace ServiceScaffold.Schema

/-! ## Loops -/

/-- A loop over states: what is left to take in a state, where the loop ends and with what, and what
one turn makes of a state. That is a result with which the loop breaks off, or the next state and
what is done to the result from there. -/
structure Loop (τ σ ρ : Type) where
  left : σ → List τ
  ends : σ → Bool
  last : σ → ρ
  turn : σ → Except ρ ((ρ → ρ) × σ)

namespace Loop

variable {τ σ ρ : Type}

/-- The exit or one turn, and `run` from there. -/
def once (L : Loop τ σ ρ) (run : σ → ρ) (s : σ) : ρ :=
  if L.ends s then L.last s
  else match L.turn s with
    | .error r => r
    | .ok (add, s') => add (run s')

/-- The loop with a number of turns that it may make; if they are too few, the result is `spent`. -/
def within (L : Loop τ σ ρ) (spent : ρ) : Nat → σ → ρ
  | 0, s => if L.ends s then L.last s else spent
  | n + 1, s => L.once (L.within spent n) s

/-- The function is the loop, each turn that goes on takes something, and as many turns as there is
left to take are enough. -/
structure Runs (L : Loop τ σ ρ) (run : σ → ρ) : Prop where
  unrolls : ∀ s, run s = L.once run s
  progress : ∀ s add s', L.ends s = false → L.turn s = .ok (add, s') →
    ∃ x taken, L.left s = x :: (taken ++ L.left s')
  bounded : ∀ spent n s, (L.left s).length ≤ n → run s = L.within spent n s

theorem Runs.of_progress {L : Loop τ σ ρ} {run : σ → ρ} (unrolls : ∀ s, run s = L.once run s)
    (progress : ∀ s add s', L.ends s = false → L.turn s = .ok (add, s') →
      ∃ x taken, L.left s = x :: (taken ++ L.left s'))
    (nil : ∀ s, L.left s = [] → L.ends s = true) : L.Runs run := by
  refine ⟨unrolls, progress, ?_⟩
  intro spent n s hn
  induction n generalizing s with
  | zero =>
    have hends := nil s (List.length_eq_zero_iff.1 (Nat.le_zero.1 hn))
    rw [unrolls, once, within, if_pos hends, if_pos hends]
  | succ n ih =>
    rw [unrolls, within, once, once]
    cases hends : L.ends s with
    | true => rfl
    | false =>
      cases ht : L.turn s with
      | error r => rfl
      | ok next =>
        obtain ⟨add, s'⟩ := next
        obtain ⟨x, taken, hleft⟩ := progress s add s' hends ht
        rw [hleft, List.length_cons, List.length_append] at hn
        exact congrArg add (ih s' (by omega))

end Loop

/-! ## Items -/

namespace Parser
open Grammar

variable {α : Type}

/-- What is read is put before what the loop goes on to read. -/
def prepend (o : Option α) (r : List α × List Lexeme) : List α × List Lexeme :=
  (o.toList ++ r.1, r.2)

/-- The loop over items, kept where they yield something. -/
def itemLoop (stop : List Lexeme → Bool) (item : Parser (Option α)) :
    Loop Lexeme (List Lexeme) (Except Fault (List α × List Lexeme)) where
  left := id
  ends ts := ts.isEmpty || stop ts
  last ts := .ok ([], ts)
  turn ts :=
    match item.run ts with
    | .error fault => .error (.error fault)
    | .ok (o, rest) => .ok (Except.map (prepend o), rest)

theorem taken_of_suffix {ts rest : List Lexeme} (h : rest <:+ ts) (hl : rest.length < ts.length) :
    ∃ t taken, ts = t :: (taken ++ rest) := by
  obtain ⟨taken, rfl⟩ := h
  cases taken with
  | nil => exact absurd hl (Nat.lt_irrefl _)
  | cons t taken => exact ⟨t, taken, rfl⟩

section Once

variable {stop : List Lexeme → Bool} {item : Parser (Option α)}
  {run : List Lexeme → Except Fault (List α × List Lexeme)} {ts : List Lexeme}

theorem once_of_stop (h : (ts.isEmpty || stop ts) = true) :
    (itemLoop stop item).once run ts = .ok ([], ts) :=
  if_pos h

theorem once_of_error (h : ¬(ts.isEmpty || stop ts) = true) {fault : Fault}
    (hi : item.run ts = .error fault) : (itemLoop stop item).once run ts = .error fault := by
  refine (if_neg h).trans ?_
  simp only [itemLoop, hi]

theorem once_of_run (h : ¬(ts.isEmpty || stop ts) = true) {o : Option α} {rest : List Lexeme}
    (hi : item.run ts = .ok (o, rest)) :
    (itemLoop stop item).once run ts = (run rest).map (prepend o) := by
  refine (if_neg h).trans ?_
  simp only [itemLoop, hi]

end Once

theorem itemLoop_runs_of_unrolls {stop : List Lexeme → Bool} {item : Parser (Option α)}
    (hc : Consuming item) {run : List Lexeme → Except Fault (List α × List Lexeme)}
    (h : ∀ ts, run ts = (itemLoop stop item).once run ts) : (itemLoop stop item).Runs run := by
  refine .of_progress h ?_ ?_
  · intro ts add rest _ ht
    simp only [itemLoop] at ht
    split at ht
    · cases ht
    · next o rest' hi =>
      cases ht
      exact taken_of_suffix (item.suffix hi) (hc hi)
  · intro ts hnil
    have hts : ts = [] := hnil
    simp [itemLoop, hts]

theorem itemLoop_runs (stop : List Lexeme → Bool) {item : Parser (Option α)} (hc : Consuming item) :
    (itemLoop stop item).Runs (itemsFrom stop item hc) := by
  refine itemLoop_runs_of_unrolls hc ?_
  intro ts
  by_cases hd : (ts.isEmpty || stop ts) = true
  · rw [itemsFrom, if_pos hd, once_of_stop hd]
  · cases hi : item.run ts with
    | error fault =>
      rw [once_of_error hd hi, itemsFrom, if_neg hd]
      split <;> rename_i he <;> rw [hi] at he <;> cases he
      rfl
    | ok r =>
      rw [once_of_run hd hi]
      rw [Bool.not_eq_true, Bool.or_eq_false_iff] at hd
      exact itemsFrom_of_run hd.2 hi

/-! ## Elements -/

/-- One place in a message body: nothing, an element, or a whole nested message. -/
def elementTurn : Parser (Option MessageElement) := do
  match ← entry with
  | .blank => pure none
  | .element e => pure (some e)
  | .opens name => do
    let inner ← elements
    let _ ← delimiter .rbrace
    pure (some (.message name inner))

theorem elementTurn_consuming : Consuming elementTurn :=
  entry_consuming.bind _

theorem elements_run (ts : List Lexeme) :
    elements.run ts = (elementsFrom ts).map Subtype.val := by
  simp only [elements]
  cases elementsFrom ts <;> rfl

theorem elements_unrolls (ts : List Lexeme) :
    elements.run ts = (itemLoop atBodyEnd elementTurn).once elements.run ts := by
  have hempty : (ts.isEmpty || atBodyEnd ts) = atBodyEnd ts := by
    cases ts <;> rfl
  rw [elements_run, elementsFrom]
  split
  · next hd => rw [once_of_stop (hempty.trans hd)]; rfl
  · next hd =>
    rw [← hempty] at hd
    split
    · next fault he =>
      have ht : elementTurn.run ts = .error fault := by rw [elementTurn, run_bind, he]
      rw [once_of_error hd ht]
      rfl
    · next rest he =>
      have ht : elementTurn.run ts = .ok (none, rest) := by rw [elementTurn, run_bind_of_ok he]; rfl
      rw [once_of_run hd ht, elements_run]
      cases elementsFrom rest <;> rfl
    · next e rest he =>
      have ht : elementTurn.run ts = .ok (some e, rest) := by
        rw [elementTurn, run_bind_of_ok he]
        rfl
      rw [once_of_run hd ht, elements_run]
      cases elementsFrom rest <;> rfl
    · next name inside he =>
      have hin : elementTurn.run ts = (do
          let inner ← elements
          let _ ← delimiter .rbrace
          pure (some (MessageElement.message name inner)) : Parser _).run inside := by
        rw [elementTurn, run_bind_of_ok he]
      rw [run_bind, elements_run] at hin
      split
      · next fault hi =>
        rw [hi] at hin
        rw [once_of_error hd hin]
        rfl
      · next inner mid hmid hi =>
        rw [hi] at hin
        dsimp only [Except.map] at hin
        rw [run_bind] at hin
        split
        · next fault hb =>
          rw [hb] at hin
          rw [once_of_error hd hin]
          rfl
        · next after hb =>
          rw [hb] at hin
          rw [once_of_run hd hin, elements_run]
          cases elementsFrom after <;> rfl

theorem elementLoop_runs : (itemLoop atBodyEnd elementTurn).Runs elements.run :=
  itemLoop_runs_of_unrolls elementTurn_consuming elements_unrolls

/-- The elements of a message are the items of a loop whose turns call it. -/
theorem elements_eq_items : elements = items atBodyEnd elementTurn elementTurn_consuming := by
  refine Parser.ext ?_
  intro ts
  rw [elementLoop_runs.bounded (.ok ([], [])) _ ts (Nat.le_refl _)]
  exact ((itemLoop_runs atBodyEnd elementTurn_consuming).bounded _ _ ts (Nat.le_refl _)).symm

/-! ## Runs of lexemes -/

/-- The loop that takes lexemes as long as they have a property. -/
def textLoop (q : Lexeme → Bool) :
    Loop Lexeme (List Lexeme) (Except Fault (String × List Lexeme)) where
  left := id
  ends ts := !ts.head?.any q
  last ts := .ok ("", ts)
  turn
    | [] => .error (.ok ("", []))
    | t :: ts => .ok (Except.map fun r => (t.text ++ r.1, r.2), ts)

theorem textLoop_runs (q : Lexeme → Bool) : (textLoop q).Runs (textWhile q).run := by
  refine .of_progress ?_ ?_ ?_
  · intro ts
    cases ts with
    | nil => rfl
    | cons t ts =>
      cases ht : q t with
      | false => simp [Loop.once, textLoop, textWhile, ht]
      | true => simp [Loop.once, textLoop, textWhile, ht, Except.map]
  · intro ts add rest _ ht
    cases ts with
    | nil => cases ht
    | cons t ts =>
      cases ht
      exact ⟨t, [], rfl⟩
  · intro ts hnil
    have hts : ts = [] := hnil
    rw [hts]
    rfl

/-- The loop that takes the lexemes of a statement; its state holds the texts taken so far. -/
def statementLoop :
    Loop Lexeme (List String × List Lexeme) (Except Fault (String × List Lexeme)) where
  left := Prod.snd
  ends s := s.2.isEmpty || s.2.head?.any (·.is (.delimiter .semicolon))
  last
    | (_, []) => .error ⟨.unfinishedStatement, 0⟩
    | (texts, _ :: ts) => .ok (spaced texts, ts)
  turn
    | (_, []) => .error (.error ⟨.unfinishedStatement, 0⟩)
    | (texts, t :: ts) => .ok (id, texts ++ [t.text], ts)

/-- The rest of a statement of which the texts in front have been taken. -/
def statementFrom (s : List String × List Lexeme) : Except Fault (String × List Lexeme) :=
  match s.2.dropWhile (!·.is (.delimiter .semicolon)) with
  | [] => .error ⟨.unfinishedStatement, 0⟩
  | _ :: rest =>
    .ok (spaced (s.1 ++ (s.2.takeWhile (!·.is (.delimiter .semicolon))).map Lexeme.text), rest)

theorem statementText_run (ts : List Lexeme) : statementText.run ts = statementFrom ([], ts) :=
  rfl

theorem statementLoop_runs : statementLoop.Runs statementFrom := by
  refine .of_progress ?_ ?_ ?_
  · intro s
    obtain ⟨texts, ts⟩ := s
    cases ts with
    | nil => rfl
    | cons t ts =>
      cases ht : t.is (.delimiter .semicolon) with
      | false => simp [Loop.once, statementLoop, statementFrom, ht]
      | true => simp [Loop.once, statementLoop, statementFrom, ht]
  · intro s add s' _ ht
    obtain ⟨texts, ts⟩ := s
    cases ts with
    | nil => cases ht
    | cons t ts =>
      cases ht
      exact ⟨t, [], rfl⟩
  · intro s hnil
    obtain ⟨texts, ts⟩ := s
    have hts : ts = [] := hnil
    rw [hts]
    rfl

/-- The loop that takes what stands between brackets; its state holds how many are open. -/
def bracketLoop (opening closing : Kind) :
    Loop Lexeme (Nat × List Lexeme) (Option (List Lexeme × List Lexeme)) where
  left := Prod.snd
  ends
    | (_, []) => true
    | (depth, t :: _) => depth = 0 && t.kind ≠ opening && t.kind = closing
  last
    | (_, []) => none
    | (_, t :: ts) => some ([t], ts)
  turn
    | (_, []) => .error none
    | (depth, t :: ts) =>
      .ok (Option.map fun r => (t :: r.1, r.2),
        if t.kind = opening then depth + 1 else if t.kind = closing then depth - 1 else depth, ts)

theorem bracketLoop_runs (opening closing : Kind) :
    (bracketLoop opening closing).Runs fun s => closeBrackets? opening closing s.1 s.2 := by
  refine .of_progress ?_ ?_ ?_
  · intro s
    obtain ⟨depth, ts⟩ := s
    cases ts with
    | nil => rfl
    | cons t ts =>
      by_cases ho : t.kind = opening
      · simp [Loop.once, bracketLoop, closeBrackets?, ho]
      · by_cases hc : t.kind = closing
        · have hne : closing ≠ opening := hc ▸ ho
          cases depth <;> simp [Loop.once, bracketLoop, closeBrackets?, hc, hne]
        · simp [Loop.once, bracketLoop, closeBrackets?, ho, hc]
  · intro s add s' _ ht
    obtain ⟨depth, ts⟩ := s
    cases ts with
    | nil => cases ht
    | cons t ts =>
      cases ht
      exact ⟨t, [], rfl⟩
  · intro s hnil
    obtain ⟨depth, ts⟩ := s
    have hts : ts = [] := hnil
    rw [hts]
    rfl

end Parser

/-! ## Pieces of a text -/

namespace Lexer

/-- The loop that cuts a text into pieces. -/
def scanLoop : Loop Char (List Char) (List Piece × List Char) where
  left := id
  ends
    | [] => true
    | c :: cs => (piece? c cs).isNone
  last s := ([], s)
  turn
    | [] => .error ([], [])
    | c :: cs =>
      match piece? c cs with
      | none => .error ([], c :: cs)
      | some (p, rest) => .ok (fun r => (p :: r.1, r.2), rest)

theorem scanLoop_runs : scanLoop.Runs scan := by
  refine .of_progress ?_ ?_ ?_
  · intro s
    cases s with
    | nil => rw [scan]; rfl
    | cons c cs =>
      cases hp : piece? c cs with
      | none =>
        rw [scan]
        split
        · simp [Loop.once, scanLoop, hp]
        · next hs =>
          rw [hp] at hs
          cases hs
      | some r => simp [Lexical.scan_of_piece? hp, Loop.once, scanLoop, hp]
  · intro s add rest _ ht
    cases s with
    | nil => cases ht
    | cons c cs =>
      simp only [scanLoop] at ht
      split at ht
      · cases ht
      · next p rest' hp =>
        cases ht
        have happ := piece?_append hp
        obtain ⟨d, ds, hsource⟩ := List.exists_cons_of_ne_nil (piece?_ne_nil hp)
        exact ⟨d, ds, by rw [← List.cons_append, ← hsource]; exact happ.symm⟩
  · intro s hnil
    have hs : s = [] := hnil
    rw [hs]
    rfl

end Lexer

end ServiceScaffold.Schema

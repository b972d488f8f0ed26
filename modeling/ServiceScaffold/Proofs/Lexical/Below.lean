import Mathlib.Data.List.Infix
import ServiceScaffold.Proofs.Lexical.Tokens

/-!
# One text below another

A line feed ends every word, every number and every line comment, so that a text in which no block
comment is left open is scanned the same with another text on the lines below it. The tokens of the
lower text are those that it has on its own, moved down (`ofText_below`).
-/
namespace ServiceScaffold.Schema

/-! ## Moving down -/

def Position.below (n : Nat) (p : Position) : Position :=
  ⟨p.line + n, p.column⟩

theorem Position.below_after (n : Nat) (p : Position) (s : List Char) :
    (p.below n).after s = (p.after s).below n := by
  induction s generalizing p with
  | nil => rfl
  | cons c s ih =>
    have hc : (p.below n).advance c = (p.advance c).below n := by
      unfold advance below
      split
      · simp only [Position.mk.injEq, and_true]
        omega
      · rfl
    rw [after_cons, after_cons, hc, ih]

/-- The place behind a line feed is the start of a text, moved down. -/
theorem Position.after_newline (s : List Char) :
    start.after (s ++ ['\n']) = start.below (s.count '\n' + 1) := by
  rw [after_append_newline start s List.not_mem_nil, start, below]
  simp only [List.length_nil, Position.mk.injEq, and_true]
  omega

def Token.below (n : Nat) (t : Token) : Token :=
  ⟨t.lexeme, t.position.below n⟩

namespace Tokens

/-- The tokens of an upper text followed by those of a lower one, which stand `n` lines down. -/
def above (t : Tokens) (n : Nat) (u : Tokens) : Tokens :=
  ⟨t.tokens ++ u.tokens.map (·.below n), u.stop.below n⟩

@[simp] theorem lexemes_above (t : Tokens) (n : Nat) (u : Tokens) :
    (t.above n u).lexemes = t.lexemes ++ u.lexemes := by
  simp [above, lexemes, Token.below, Function.comp_def]

/-- Of the lower tokens, each stands where it stood, moved down. -/
theorem place_above (t u : Tokens) (n : Nat) {remaining : Nat}
    (h : remaining ≤ u.lexemes.length) :
    (t.above n u).place remaining = (u.place remaining).below n := by
  rw [lexemes, List.length_map] at h
  unfold place
  have hindex : (t.above n u).tokens.length - remaining =
      t.tokens.length + (u.tokens.length - remaining) := by
    simp only [above, List.length_append, List.length_map]
    omega
  rw [hindex, above, List.getElem?_append_right (Nat.le_add_right _ _), Nat.add_sub_cancel_left,
    List.getElem?_map]
  cases u.tokens[u.tokens.length - remaining]? <;> rfl

theorem ofPieces_below (n : Nat) (p : Position) (ps : List Piece) :
    ofPieces (p.below n) ps =
      ⟨(ofPieces p ps).tokens.map (·.below n), (ofPieces p ps).stop.below n⟩ := by
  induction ps generalizing p with
  | nil => rfl
  | cons piece ps ih =>
    cases piece with
    | lexeme l s =>
      simp only [ofPieces, Position.below_after, ih]
      rfl
    | blank c => simp only [ofPieces, Position.below_after, ih]
    | comment s => simp only [ofPieces, Position.below_after, ih]

/-- Pieces that follow others have the places behind them. -/
theorem ofPieces_append (p : Position) (ps qs : List Piece) :
    ofPieces p (ps ++ qs) =
      ⟨(ofPieces p ps).tokens ++ (ofPieces (p.after (ps.flatMap Piece.source)) qs).tokens,
        (ofPieces (p.after (ps.flatMap Piece.source)) qs).stop⟩ := by
  induction ps generalizing p with
  | nil => rfl
  | cons piece ps ih =>
    rw [List.flatMap_cons, Position.after_append]
    cases piece with
    | lexeme l s =>
      simp only [ofPieces, List.cons_append, ih]
    | blank c => simp only [ofPieces, List.cons_append, ih]
    | comment s => simp only [ofPieces, List.cons_append, ih]

end Tokens

namespace Lexical
open Text Lexer

/-! ## Runs -/

theorem isBreak_newline : isBreak '\n' = true := by
  decide

/-- What starts a text and holds no line feed starts it above the first one. -/
theorem prefix_of_prefix_newline {more rest b : List Char} (h : more <+: rest ++ '\n' :: b)
    (hn : '\n' ∉ more) : more <+: rest := by
  induction rest generalizing more with
  | nil =>
    cases more with
    | nil => exact List.prefix_refl _
    | cons c more => exact absurd (by simp [(List.cons_prefix_cons.1 h).1]) hn
  | cons r rest ih =>
    cases more with
    | nil => exact List.nil_prefix
    | cons c more =>
      obtain ⟨rfl, hm⟩ := List.cons_prefix_cons.1 h
      exact List.cons_prefix_cons.2 ⟨rfl, ih hm fun hc => hn (List.mem_cons_of_mem _ hc)⟩

theorem Longest.below {Run : List Char → Prop}
    (hrun : ∀ s, Run s → ∀ c ∈ s, isBreak c = false) {source rest : List Char}
    (h : Longest Run source rest) (b : List Char) : Longest Run source (rest ++ '\n' :: b) := by
  refine ⟨h.run, fun more hm hr => h.longest more (prefix_of_prefix_newline hm ?_) hr⟩
  intro hn
  have hb := hrun _ hr '\n' (List.mem_append_right _ hn)
  rw [isBreak_newline] at hb
  cases hb

/-! ## Pieces -/

theorem StartsNothing.below {c : Char} {rest : List Char} (h : StartsNothing c rest)
    (b : List Char) : StartsNothing c (rest ++ '\n' :: b) := by
  rw [startsNothing_iff] at h ⊢
  obtain ⟨hb, hc, hd, hq, hn, hw⟩ := h
  refine ⟨hb, ?_, hd, hq, ?_, ?_⟩
  · rw [comment?_eq_none] at hc ⊢
    cases rest with
    | nil => exact fun _ => ⟨by simp, by simp⟩
    | cons d rest => exact hc
  · cases rest with
    | nil => exact (startsNumber_before_break c isBreak_newline).trans hn
    | cons d rest => exact hn
  · cases rest with
    | nil => exact (startsWord_before_break c isBreak_newline).trans hw
    | cons d rest => exact hw

theorem Form.below {l : Lexeme} {source rest : List Char} (h : Form l source rest)
    (b : List Char) : Form l source (rest ++ '\n' :: b) := by
  cases h with
  | delimiter d => exact .delimiter d
  | string hq hb => exact .string hq hb
  | number h => exact .number (h.below (fun _ hs _ => hs.isBreak_eq_false) b)
  | keyword k h hk => exact .keyword k (h.below (fun _ hs _ => hs.isBreak_eq_false) b) hk
  | ident h hk => exact .ident (h.below (fun _ hs _ => hs.isBreak_eq_false) b) hk
  | symbol h => exact .symbol (h.below b)

end Lexical

/-- A comment that opens like a block comment has the mark of its end. -/
def Piece.isClosed : Piece → Bool
  | .comment ('/' :: '*' :: body) => decide (['*', '/'] <:+: body)
  | _ => true

/-- No block comment is left open. -/
def CommentsClosed (text : String) : Prop :=
  ∀ p ∈ (Lexer.scan text.toList).1, p.isClosed = true

instance (text : String) : Decidable (CommentsClosed text) :=
  inferInstanceAs (Decidable (∀ p ∈ (Lexer.scan text.toList).1, p.isClosed = true))

namespace Lexical
open Text Lexer

theorem Comment.below {source rest : List Char} (h : Comment source rest)
    (hc : (Piece.comment source).isClosed = true) (b : List Char) :
    Comment source (rest ++ '\n' :: b) := by
  cases h with
  | line hb hr =>
    refine .line hb (.inr ?_)
    rcases hr with rfl | hr
    · rfl
    · obtain ⟨cs, rfl⟩ := List.head?_eq_some_iff.1 hr
      rfl
  | block hb => exact .block hb
  | unclosed hb => exact absurd (of_decide_eq_true hc) hb

theorem piece?_below {c : Char} {cs rest : List Char} {p : Piece}
    (h : piece? c cs = some (p, rest)) (hc : p.isClosed = true) (b : List Char) :
    piece? c (cs ++ '\n' :: b) = some (p, rest ++ '\n' :: b) := by
  have happ : p.source ++ rest ++ '\n' :: b = c :: (cs ++ '\n' :: b) :=
    congrArg (· ++ '\n' :: b) (piece?_append h)
  unfold piece? at h
  split at h
  · next hb =>
    cases h
    rw [piece?, if_pos hb]
  · next hb =>
    split at h
    · next hco =>
      cases h
      obtain ⟨d, ds, he, hs⟩ := comment?_eq_some ((comment_of_comment? hco).below hc b)
      rw [← List.append_assoc] at he
      obtain ⟨rfl, rfl⟩ := List.cons.inj (happ.symm.trans he)
      rw [piece?, if_neg hb, hs]
    · next hco =>
      obtain ⟨⟨l, source, r⟩, hl, he⟩ := Option.map_eq_some_iff.1 h
      cases he
      rw [Bool.not_eq_true] at hb
      obtain ⟨d, ds, he, hs⟩ := piece?_of_form ((form_of_lexeme? hb hco hl).below b)
      rw [← List.append_assoc] at he
      obtain ⟨rfl, rfl⟩ := List.cons.inj (happ.symm.trans he)
      exact hs

/-- The scanner reads the upper text, the line feed and the lower text one after the other. -/
theorem scan_below {s : List Char} (h : (scan s).2 = []) (hc : ∀ p ∈ (scan s).1, p.isClosed = true)
    (b : List Char) :
    scan (s ++ '\n' :: b) = ((scan s).1 ++ .blank '\n' :: (scan b).1, (scan b).2) := by
  fun_induction scan s with
  | case1 =>
    have hfeed : piece? '\n' b = some (.blank '\n', b) := rfl
    exact scan_of_piece? hfeed
  | case2 => cases h
  | case3 c cs p rest hp _ ih =>
    rw [List.cons_append, scan_of_piece? (piece?_below hp (hc p List.mem_cons_self) b),
      ih h fun q hq => hc q (List.mem_cons_of_mem _ hq)]
    rfl

/-- The tokens of a text below another one, or the place of its open literal. -/
theorem ofText_below {a : String} {t : Tokens} (ha : Tokens.ofText a = .ok t)
    (hc : CommentsClosed a) (b : String) :
    Tokens.ofText (a ++ "\n" ++ b) =
      match Tokens.ofText b with
      | .ok u => .ok (t.above (a.toList.count '\n' + 1) u)
      | .error p => .error (p.below (a.toList.count '\n' + 1)) := by
  obtain ⟨hs, ht⟩ := ofText_eq_ok.1 ha
  have hsources := scan_sources a.toList
  rw [hs, List.append_nil] at hsources
  have ht' : t = Tokens.ofPieces .start (scan a.toList).1 := by
    rw [tokensBehind, Position.after_nil, withEnd_inj] at ht
    exact ht
  have hlist : (a ++ "\n" ++ b).toList = a.toList ++ '\n' :: b.toList := by simp
  have hplace : (Position.start.after a.toList).after ['\n'] =
      Position.start.below (a.toList.count '\n' + 1) := by
    rw [← Position.after_append, Position.after_newline]
  simp only [Tokens.ofText, hlist, scan_below hs hc, Tokens.ofPieces_append, hsources,
    Tokens.ofPieces, Piece.source, hplace, Tokens.ofPieces_below]
  split
  · rw [ht']
    rfl
  · rfl

end Lexical

end ServiceScaffold.Schema

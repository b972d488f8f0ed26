import ServiceScaffold.Proofs.Lexical.Tokens

/-!
# Texts without tokens

A text has no tokens only where a quote opens a literal that nothing closes. `OpenLiteral` goes
through the text as `Cut` does and ends at such a quote, whose place is the one that is reported
(`openLiteral_of_ofText`).
-/
namespace ServiceScaffold.Schema.Lexical
open Text Lexer

/-- What stands behind `before` is gaps and lexemes in turn up to a quote that stands at the place
and opens a literal without an end. -/
inductive OpenLiteral : List Char → List Char → Position → Prop
  | quote {before gap quote rest} : Gap gap (quote :: rest) → isQuote quote = true →
      (∀ body behind, rest = body ++ quote :: behind → ¬LiteralBody quote body) →
      OpenLiteral before (gap ++ quote :: rest) (placeBehind (before ++ gap))
  | token {before gap l source rest place} : Gap gap (source ++ rest) → Form l source rest →
      OpenLiteral (before ++ gap ++ source) rest place →
      OpenLiteral before (gap ++ source ++ rest) place

theorem OpenLiteral.widen {before front s : List Char} {place : Position}
    (hw : ∀ gap rest, gap ++ rest = s → Gap gap rest → Gap (front ++ gap) rest)
    (h : OpenLiteral (before ++ front) s place) : OpenLiteral before (front ++ s) place := by
  cases h with
  | @quote _ gap quote rest hg hq hopen =>
    rw [List.append_assoc, ← List.append_assoc]
    exact .quote (hw gap _ rfl hg) hq hopen
  | @token _ gap l source rest _ hg hf ht =>
    have hgap := hw gap (source ++ rest) (by rw [List.append_assoc]) hg
    rw [List.append_assoc before] at ht
    rw [← List.append_assoc, ← List.append_assoc]
    exact .token hgap hf ht

/-- What is no piece is a quote without its like. -/
theorem openLiteral_of_piece? {c : Char} {cs : List Char} (h : piece? c cs = none)
    (before : List Char) : OpenLiteral before (c :: cs) (placeBehind before) := by
  unfold piece? at h
  split at h
  · cases h
  · split at h
    · cases h
    · rw [Option.map_eq_none_iff, lexeme?] at h
      split at h
      · cases h
      · split at h
        · next hq =>
          rw [Option.map_eq_none_iff] at h
          have hopen : ∀ body behind, cs = body ++ c :: behind → ¬LiteralBody c body := by
            intro body behind hcs hb
            rw [hcs, stringBody?_of_literalBody hq hb] at h
            cases h
          have hquote := @OpenLiteral.quote before [] c cs .nil hq hopen
          rw [List.append_nil] at hquote
          exact hquote
        · split at h
          · cases h
          · split at h <;> cases h

theorem openLiteral_of_scan {s : List Char} (h : (Lexer.scan s).2 ≠ []) (before : List Char) :
    OpenLiteral before s (placeBehind (before ++ (Lexer.scan s).1.flatMap Piece.source)) := by
  fun_induction Lexer.scan s generalizing before with
  | case1 => exact absurd rfl h
  | case2 c cs hp =>
    rw [List.flatMap_nil, List.append_nil]
    exact openLiteral_of_piece? hp before
  | case3 c cs p rest hp _ ih =>
    have hs := ih h (before ++ p.source)
    have happ := piece?_append hp
    rw [List.append_assoc] at hs
    rw [List.flatMap_cons]
    unfold piece? at hp
    split at hp
    · next hb =>
      cases hp
      exact OpenLiteral.widen (fun gap rest _ hg => .blank hb hg) hs
    · next hb =>
      split at hp
      · next hc =>
        cases hp
        rw [← happ]
        exact OpenLiteral.widen (fun gap rest he hg => .comment (he ▸ comment_of_comment? hc) hg) hs
      · next hc =>
        obtain ⟨⟨l, source, r⟩, hl, he⟩ := Option.map_eq_some_iff.1 hp
        cases he
        rw [← happ]
        rw [Bool.not_eq_true] at hb
        refine @OpenLiteral.token before [] _ _ _ _ .nil (form_of_lexeme? hb hc hl) ?_
        rw [List.append_nil]
        exact hs

theorem stop_ofPieces (p : Position) (ps : List Piece) :
    (Tokens.ofPieces p ps).stop = p.after (ps.flatMap Piece.source) := by
  induction ps generalizing p with
  | nil => rfl
  | cons piece ps ih =>
    rw [List.flatMap_cons, Position.after_append, ← ih]
    cases piece <;> rfl

/-- The place that is reported for a text without tokens is that of a quote whose literal has no
end. -/
theorem openLiteral_of_ofText {text : String} {place : Position}
    (h : Tokens.ofText text = .error place) : OpenLiteral [] text.toList place := by
  simp only [Tokens.ofText] at h
  split at h
  · cases h
  · next hne =>
    cases h
    rw [stop_ofPieces, ← placeBehind_eq]
    exact openLiteral_of_scan (by simpa using hne) []

end ServiceScaffold.Schema.Lexical

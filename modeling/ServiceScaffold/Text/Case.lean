import ServiceScaffold.Text.CaseTable

/-!
# Lower case and title case

`lowercase` maps a whole text: each character by its own mapping, a capital dotted I to two
characters, and a capital sigma to its final form where it ends a word. `titlecase` maps one
character, which may become several.
-/
namespace ServiceScaffold.Text

def isUpperAscii (c : Char) : Bool := 'A' ≤ c && c ≤ 'Z'

def isLowerAscii (c : Char) : Bool := 'a' ≤ c && c ≤ 'z'

def isDigitAscii (c : Char) : Bool := '0' ≤ c && c ≤ '9'

def titlecase (c : Char) : List Char :=
  match titleExpansions.find? (·.1 == c.toNat) with
  | some e => e.2.map Char.ofNat
  | none => [mapByRuns titleRuns c]

def lowerChar (c : Char) : List Char :=
  if c = 'İ' then ['i', '\u0307'] else [mapByRuns lowerRuns c]

def isCaseIgnorable (c : Char) : Bool := caseIgnorableRanges.has c

def isCased (c : Char) : Bool := casedRanges.has c

/-- Whether the first character that is not passed over has case. -/
def meetsCased (cs : List Char) : Bool :=
  match cs.dropWhile isCaseIgnorable with
  | [] => false
  | c :: _ => isCased c

/-- The lower case of a text that stands after `before`, which is kept in reverse. -/
def lowercaseAfter (before : List Char) : List Char → List Char
  | [] => []
  | c :: cs =>
    (if c = 'Σ' then
      if meetsCased before && !meetsCased cs then ['ς'] else ['σ']
    else lowerChar c) ++ lowercaseAfter (c :: before) cs

def lowercase (s : List Char) : List Char :=
  lowercaseAfter [] s

theorem lowercaseAfter_eq_flatMap {s : List Char} (h : 'Σ' ∉ s) (before : List Char) :
    lowercaseAfter before s = s.flatMap lowerChar := by
  induction s generalizing before with
  | nil => rfl
  | cons c cs ih =>
    have hc : c ≠ 'Σ' := fun e => h (by simp [e])
    simp [lowercaseAfter, hc, ih (fun e => h (by simp [e]))]

/-- Without a capital sigma each character is mapped on its own. -/
theorem lowercase_eq_flatMap {s : List Char} (h : 'Σ' ∉ s) :
    lowercase s = s.flatMap lowerChar :=
  lowercaseAfter_eq_flatMap h []

theorem lowercase_singleton_ne_nil (c : Char) : lowercase [c] ≠ [] := by
  rw [lowercase, lowercaseAfter]
  split
  · split <;> simp
  · unfold lowerChar
    split <;> simp

theorem titlecase_ne_nil (c : Char) : titlecase c ≠ [] := by
  unfold titlecase
  split
  · next e he =>
    have expanded : ∀ e ∈ titleExpansions, e.2 ≠ [] := by decide
    simpa using expanded e (List.mem_of_find?_eq_some he)
  · simp

end ServiceScaffold.Text

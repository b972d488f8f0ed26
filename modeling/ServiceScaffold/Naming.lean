import ServiceScaffold.Text.Case
import ServiceScaffold.Text.Digit
import ServiceScaffold.Text.Segment

/-!
# Names

How a name of a schema becomes a name of Go source: the two camel cases and the snake case, the
bare name behind a package qualification, the names left when a conventional suffix is taken
off, and the alias that Go source uses for an imported package.
-/
namespace ServiceScaffold.Naming
open Text

/-- The underscores go, and the character after each of them, like the first one, is put into
title case. -/
def camelFrom (atStart : Bool) : List Char → List Char
  | [] => []
  | c :: cs =>
    if c = '_' then camelFrom true cs
    else (if atStart then titlecase c else [c]) ++ camelFrom false cs

def upperCamel (name : String) : String :=
  String.ofList (camelFrom true name.toList)

def lowerFirst : List Char → List Char
  | [] => []
  | c :: cs => lowercase [c] ++ cs

def lowerCamel (name : String) : String :=
  String.ofList (lowerFirst (camelFrom true name.toList))

theorem camelFrom_eq_nil_iff (atStart : Bool) (cs : List Char) :
    camelFrom atStart cs = [] ↔ ∀ c ∈ cs, c = '_' := by
  induction cs generalizing atStart with
  | nil => simp [camelFrom]
  | cons c cs ih =>
    rw [camelFrom, List.forall_mem_cons]
    by_cases hc : c = '_'
    · rw [if_pos hc, ih]
      simp [hc]
    · have hne : (if atStart then titlecase c else [c]) ≠ [] := by
        split
        · exact titlecase_ne_nil c
        · exact List.cons_ne_nil c []
      simp [hc, hne]

/-- Nothing is left of the names that are made of underscores alone. -/
theorem lowerCamel_eq_empty_iff (name : String) :
    lowerCamel name = "" ↔ ∀ c ∈ name.toList, c = '_' := by
  rw [← camelFrom_eq_nil_iff true, lowerCamel, ← String.toList_inj, String.toList_ofList]
  cases camelFrom true name.toList with
  | nil => simp [lowerFirst]
  | cons c cs => simp [lowerFirst, lowercase_singleton_ne_nil]

/-- A word starts at `b` after `a` where a lower case letter or a digit meets a capital, and at
the last capital of a run of them when a lower case letter follows. -/
def startsWord (a b : Char) (next : Option Char) : Bool :=
  isUpperAscii b &&
    (isLowerAscii a || isDigitAscii a || (isUpperAscii a && next.any isLowerAscii))

def splitWords : List Char → List Char
  | a :: b :: cs =>
    if startsWord a b cs.head? then a :: '_' :: splitWords (b :: cs)
    else a :: splitWords (b :: cs)
  | cs => cs

def snake (name : String) : String :=
  String.ofList (lowercase (splitWords name.toList))

def lower (name : String) : String :=
  String.ofList (lowercase name.toList)

/-- The name of a service or of one of its methods: what stands before the first dot, in upper
camel case. -/
def declared (name : String) : String :=
  String.ofList (camelFrom true (beforeFirst '.' name.toList))

/-- The last segment of a dotted name. -/
def bare (qualified : String) : String :=
  String.ofList (afterLast '.' qualified.toList)

/-- A dotted name without the dot that makes it absolute. -/
def relative (qualified : String) : String :=
  match qualified.toList with
  | '.' :: cs => String.ofList cs
  | _ => qualified

def requestSuffix : String := "Request"

def replySuffix : String := "Reply"

def dropSuffix? (suffix name : String) : Option String :=
  (Text.dropSuffix? suffix.toList name.toList).map String.ofList

def withoutSuffix (suffix name : String) : String :=
  (dropSuffix? suffix name).getD name

/-- A path segment that gives the major version of the package named before it. -/
def isVersion : List Char → Bool
  | 'v' :: c :: cs => isDecimal c && cs.all isDecimal
  | _ => false

def aliasSegment (path : List Char) : List Char :=
  match ((segments '/' path).filter (· ≠ [])).reverse with
  | [] => []
  | [last] => last
  | last :: previous :: _ => if isVersion last then previous else last

def dropGoMark : List Char → List Char
  | 'g' :: 'o' :: '-' :: cs => cs
  | cs => cs

/-- The identifier by which Go source refers to the package imported from a path: the last
segment of the path, or the one before it when the last one is a version, without a leading
`go-` and with an underscore for every character that no word contains. -/
def packageAlias (path : String) : String :=
  String.ofList ((dropGoMark (aliasSegment path.toList)).map
    fun c => if isWordPart c then c else '_')

end ServiceScaffold.Naming

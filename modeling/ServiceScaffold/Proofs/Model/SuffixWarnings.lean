import Mathlib.Data.List.Forall2
import ServiceScaffold.Proofs.Model.Interleaving

/-!
# Warnings of missing suffixes

A request type should end in `Request` and a response type in `Reply`. A draft finds out by taking the
suffix off; here a warning is due (`due`) where the last segment of the type does not end in it. The
two agree on every file, wherever its declarations stand: the warnings are those due, in the order of
the rpcs, and a short name is its segment exactly where one is due (`Shortened`).
-/
namespace ServiceScaffold.Model
open Naming

/-! ## What is due -/

/-- Whether the last segment of a type's name ends in the suffix. -/
def EndsIn (suffix typeName : String) : Prop :=
  suffix.toList <:+ (lastSegment typeName).toList

instance (suffix typeName : String) : Decidable (EndsIn suffix typeName) :=
  inferInstanceAs (Decidable (_ <:+ _))

/-- The warning that a type in the method calls for, which names the last segment of the type. -/
def due (method suffix typeName : String) : List Warning :=
  if EndsIn suffix typeName then [] else [.missingSuffix method (lastSegment typeName) suffix]

/-- The warnings due for the types of an rpc, the request's in front. -/
def dueForRpc (r : Schema.Rpc) : List Warning :=
  due (declared r.name) "Request" r.requestType ++ due (declared r.name) "Reply" r.responseType

def dueForFile (f : Schema.File) : List Warning :=
  f.services.flatMap fun s => s.rpcs.flatMap dueForRpc

/-- A short name is what stands in front of the suffix, and the whole segment without one. -/
def Shortened (suffix typeName short : String) : Prop :=
  if EndsIn suffix typeName then lastSegment typeName = short ++ suffix
  else short = lastSegment typeName

theorem Shortened.eq_append {suffix typeName short : String} (h : Shortened suffix typeName short)
    (he : EndsIn suffix typeName) : lastSegment typeName = short ++ suffix := by
  rwa [Shortened, if_pos he] at h

theorem Shortened.eq_segment {suffix typeName short : String} (h : Shortened suffix typeName short)
    (he : ¬EndsIn suffix typeName) : short = lastSegment typeName := by
  rwa [Shortened, if_neg he] at h

/-- The short names of a method with the types of the rpc that it comes from. -/
structure Method.ShortenedFrom (r : Schema.Rpc) (m : Method) : Prop where
  request : Shortened "Request" r.requestType m.requestShort
  response : Shortened "Reply" r.responseType m.responseShort

/-! ## One type -/

theorem dropSuffix?_bare (suffix typeName : String) :
    (∃ short, Naming.dropSuffix? suffix (bare typeName) = some short ∧
        bare typeName = short ++ suffix) ∧ EndsIn suffix typeName ∨
      Naming.dropSuffix? suffix (bare typeName) = none ∧ ¬EndsIn suffix typeName := by
  rw [EndsIn, lastSegment_eq, Naming.dropSuffix?]
  cases hd : Text.dropSuffix? suffix.toList (bare typeName).toList with
  | some front =>
    have he : bare typeName = String.ofList front ++ suffix := by
      rw [← String.toList_inj, Text.dropSuffix?_eq_some.1 hd]
      simp
    exact .inl ⟨⟨_, rfl, he⟩, front, (Text.dropSuffix?_eq_some.1 hd).symm⟩
  | none =>
    refine .inr ⟨rfl, ?_⟩
    rintro ⟨front, hf⟩
    rw [Text.dropSuffix?_eq_some.2 hf.symm] at hd
    cases hd

theorem suffixWarnings_eq_due (method suffix typeName : String) :
    suffixWarnings method suffix typeName = due method suffix typeName := by
  rw [suffixWarnings, due]
  rcases dropSuffix?_bare suffix typeName with ⟨⟨short, hd, _⟩, he⟩ | ⟨hd, he⟩
  · rw [hd, if_pos he]
  · rw [hd, if_neg he, lastSegment_eq]

theorem shortened_shortName (suffix typeName : String) :
    Shortened suffix typeName (shortName suffix typeName) := by
  rw [Shortened, shortName, withoutSuffix, lastSegment_eq]
  rcases dropSuffix?_bare suffix typeName with ⟨⟨short, hd, hb⟩, he⟩ | ⟨hd, he⟩
  · rw [if_pos he, hd]
    exact hb
  · rw [if_neg he, hd]
    rfl

theorem rpcWarnings_eq_due : rpcWarnings = dueForRpc := by
  funext r
  rw [rpcWarnings, suffixWarnings_eq_due, suffixWarnings_eq_due]
  rfl

theorem shortenedFrom_ofRpc (r : Schema.Rpc) : (Method.ofRpc r).ShortenedFrom r := by
  unfold Method.ofRpc
  constructor
  · dsimp only
    exact shortened_shortName requestSuffix r.requestType
  · dsimp only
    exact shortened_shortName replySuffix r.responseType

/-! ## Files -/

/-- What a file leaves with the services does not depend on where its other declarations stand. -/
theorem ofEvents_part_services (f : Schema.File) :
    (Draft.ofEvents f.events).part .services = (Draft.empty.extend f).part .services := by
  let g : Schema.File := f.services.map .service
  have services : g.services = f.services := by
    simp [g, Schema.File.services, List.filterMap_map]
  have placed : g.WellPlaced := by
    intro c hc
    obtain ⟨s, _, rfl⟩ := List.mem_map.1 hc
    rfl
  calc (Draft.ofEvents f.events).part .services
      = ((onStream .services f.events).foldl Draft.step Draft.empty).part .services :=
        Draft.foldl_step_part f.events rfl
    _ = ((onStream .services g.events).foldl Draft.step Draft.empty).part .services := by
        rw [onStream_services, onStream_services, services]
    _ = (Draft.ofEvents g.events).part .services := (Draft.foldl_step_part g.events rfl).symm
    _ = (Draft.empty.extend f).part .services := by
        rw [Draft.ofEvents_eq_extend placed]
        simp only [Draft.part, Draft.extend, services]

theorem warnings_ofEvents (f : Schema.File) :
    (Draft.ofEvents f.events).warnings = dueForFile f := by
  have h := congrArg Draft.warnings (ofEvents_part_services f)
  calc (Draft.ofEvents f.events).warnings
      = (Draft.empty.extend f).warnings := h
    _ = f.services.flatMap fun s => s.rpcs.flatMap rpcWarnings := List.nil_append _
    _ = dueForFile f := by rw [rpcWarnings_eq_due, dueForFile]

theorem methods_ofEvents (f : Schema.File) (source : String) :
    ((Draft.ofEvents f.events).toServices source).map Service.methods =
      f.services.map fun s => s.rpcs.map Method.ofRpc := by
  have h := congrArg Draft.services (ofEvents_part_services f)
  have h : (Draft.ofEvents f.events).services = (Draft.empty.extend f).services := h
  rw [Draft.toServices, h]
  simp [Draft.extend, Draft.empty]

/-- Whatever a file declares, its draft holds the warnings due and no others. A file is refused only
where it has no rpc to warn of; from any other come the warnings and, for each service, the methods
with their short names. -/
theorem ofDeclarations_suffixWarnings (f : Schema.File) (source : String) :
    (Draft.ofEvents f.events).warnings = dueForFile f ∧
    match Extraction.ofDeclarations f source with
    | .ok e => e.warnings = dueForFile f ∧
        List.Forall₂ (fun declared s => List.Forall₂ (fun r m => m.ShortenedFrom r)
          declared.rpcs s.methods) f.services e.services
    | .error failure => failure = .noService source ∧ f.services = [] := by
  refine ⟨warnings_ofEvents f, ?_⟩
  have methods := methods_ofEvents f source
  rw [Extraction.ofDeclarations]
  cases hs : (Draft.ofEvents f.events).toServices source with
  | nil =>
    rw [hs] at methods
    exact ⟨rfl, List.map_eq_nil_iff.1 methods.symm⟩
  | cons s ss =>
    refine ⟨warnings_ofEvents f, ?_⟩
    rw [hs] at methods
    -- services with the methods of the file's services, taken pair by pair
    refine (List.forall₂_map_right_iff (f := Service.methods)
      (R := fun declared ms => List.Forall₂ (fun r m => Method.ShortenedFrom r m)
        (Schema.Service.rpcs declared) ms)).1 ?_
    rw [methods, List.forall₂_map_right_iff, List.forall₂_same]
    intro declared _
    rw [List.forall₂_map_right_iff, List.forall₂_same]
    exact fun r _ => shortenedFrom_ofRpc r

/-- Two services, each with an rpc of which one type has its suffix and the other has not. -/
def halfSuffixed : Schema.File :=
  [.service ⟨"Accounts", [.rpc ⟨"get", "GetRequest", ".accounts.v1.Account", false, false, []⟩]⟩,
   .service ⟨"Audit", [.rpc ⟨"list_all", "audit.Query", "ListReply", false, true, []⟩]⟩]

theorem ofDeclarations_suffixWarnings_halfSuffixed :
    ∃ e get list, Extraction.ofDeclarations halfSuffixed "p.proto" = .ok e ∧
      e.warnings = [.missingSuffix "Get" "Account" "Reply",
        .missingSuffix "ListAll" "Query" "Request"] ∧
      e.services.map Service.methods = [[get], [list]] ∧
      ("GetRequest" = get.requestShort ++ "Request" ∧ get.responseShort = "Account") ∧
      list.requestShort = "Query" ∧ "ListReply" = list.responseShort ++ "Reply" := by
  have h := (ofDeclarations_suffixWarnings halfSuffixed "p.proto").2
  cases he : Extraction.ofDeclarations halfSuffixed "p.proto" with
  | error failure =>
    rw [he] at h
    cases h.2
  | ok e =>
    rw [he] at h
    obtain ⟨warnings, services⟩ := h
    -- the services and their methods, one by one
    simp only [halfSuffixed, Schema.File.services, Schema.Service.rpcs, List.filterMap_cons,
      List.filterMap_nil, List.forall₂_cons_left_iff, List.forall₂_nil_left_iff] at services
    obtain ⟨s, _, ⟨get, _, hget, rfl, hs⟩, ⟨t, _, ⟨list, _, hlist, rfl, ht⟩, rfl, rfl⟩, hst⟩ :=
      services
    refine ⟨e, get, list, rfl, warnings.trans (by decide +kernel), ?_, ⟨?_, ?_⟩, ?_, ?_⟩
    · rw [hst, List.map_cons, List.map_cons, List.map_nil, hs, ht]
    · exact hget.request.eq_append (by decide)
    · exact hget.response.eq_segment (by decide)
    · exact hlist.request.eq_segment (by decide)
    · exact hlist.response.eq_append (by decide)

end ServiceScaffold.Model

import ServiceScaffold.Extraction
import ServiceScaffold.Proofs.Skeleton.Reading

/-!
# The repository against its interface

The domain layer declares the interface of a repository and the persistence layer implements it;
each makes its signatures from the methods of the service on its own. Read back from the two
files, they agree on every method whose request has a name to be passed under. The domain layer
leaves the parameter out where the name comes to nothing and the persistence layer does not.
-/
namespace ServiceScaffold.Skeleton
open Model

/-! ## Implementing a signature -/

/-- A pointer to a type of the domain package as that package writes it itself. -/
def unqualified (domain type : String) : String :=
  match enclosed? ("*" ++ domain ++ ".") "" type with
  | some name => "*" ++ name
  | none => type

/-- What follows the context among the types of the parameters. -/
def Signature.parameterTypes (s : Signature) : List String :=
  (s.parameter.map Parameter.type).toList

/-- The same name, number and types, but for the qualification of the domain package. -/
structure Signature.Implements (domain : String) (s t : Signature) : Prop where
  name : s.name = t.name
  parameters : s.parameterTypes.map (unqualified domain) = t.parameterTypes
  result : unqualified domain s.result = t.result

theorem unqualified_domainType (domain name : String) :
    unqualified domain ("*" ++ Persistence.domainType domain name) = "*" ++ name := by
  have h : "*" ++ Persistence.domainType domain name = "*" ++ domain ++ "." ++ name ++ "" := by
    simp only [Persistence.domainType, String.append_assoc, String.append_empty]
  rw [unqualified, h, enclosed?_self]

theorem implements_iff (domain : String) (m : Method) :
    (Persistence.signature domain m).Implements domain (Domain.signature m) ↔
      ∃ c ∈ m.requestShort.toList, c ≠ '_' := by
  have ht : (Domain.signature m).parameterTypes =
      if Naming.lowerCamel m.requestShort = "" then [] else ["*" ++ m.requestShort] := by
    unfold Signature.parameterTypes Domain.signature Domain.parameter?
    split <;> rfl
  have hs : (Persistence.signature domain m).parameterTypes.map (unqualified domain) =
      ["*" ++ m.requestShort] := by
    simp [Signature.parameterTypes, Persistence.signature, unqualified_domainType]
  have hp : (∃ c ∈ m.requestShort.toList, c ≠ '_') ↔ Naming.lowerCamel m.requestShort ≠ "" := by
    rw [ne_eq, Naming.lowerCamel_eq_empty_iff]
    simp
  rw [hp]
  constructor
  · rintro ⟨-, h, -⟩ he
    rw [hs, ht, if_pos he] at h
    cases h
  · intro hne
    refine ⟨rfl, ?_, unqualified_domainType domain m.responseShort⟩
    rw [hs, ht, if_neg hne]

/-! ## What the files say -/

section Domain
open Domain

/-- The lines in front of the interface. -/
def preamble (s : Service) (packageName : String) (logged : Bool) : Lines :=
  [clause packageName, ""] ++ importLines logged ++ (entities s).flatMap entityLines
    ++ ["", "// " ++ interfaceName s.name ++ " is implemented by the data layer."]

theorem useCaseFile_eq (s : Service) (packageName : String) (logged : Bool) :
    useCaseFile s packageName logged =
      preamble s packageName logged ++ interfaceHead (interfaceName s.name) ::
        (s.methods.flatMap interfaceMethod ++ closeBrace ::
          (constructorLines s.name logged ++ s.methods.flatMap (useCaseMethod s.name logged))) := by
  simp [useCaseFile, preamble, interfaceLines, interfaceHead]

theorem interfaceHead_not_mem_preamble (s : Service) (packageName : String) (logged : Bool)
    (name : String) : interfaceHead name ∉ preamble s packageName logged := by
  have plain {lines : Lines} (h : lines.Lacks "type ") : interfaceHead name ∉ lines :=
    not_mem_of_lacks h (by simp [interfaceHead])
  have entity (e : Struct) : interfaceHead name ∉ entityLines e := by
    intro hm
    rw [entityLines, Struct.lines_eq] at hm
    rcases List.mem_append.1 hm with hm | hm
    · exact plain (by simp) hm
    · rcases List.mem_cons.1 hm with hm | hm
      · exact structHead_ne_interfaceHead _ _ hm.symm
      · exact plain (lacks_fieldLines rfl (by decide) (by decide) e.fields) hm
  simp only [preamble, List.mem_append, not_or]
  refine ⟨⟨⟨plain (by simp [clause]), plain (by simp [importLines])⟩, ?_⟩, plain (by simp)⟩
  intro hm
  obtain ⟨e, _, he⟩ := List.mem_flatMap.1 hm
  exact entity e he

theorem interfaceMethods_useCaseFile (s : Service) (packageName : String) (logged : Bool) :
    (useCaseFile s packageName logged).interfaceMethods (interfaceName s.name) =
      s.methods.map fun m => "\t" ++ (signature m).text := by
  have hl : Lines.Lacks closeBrace (s.methods.flatMap interfaceMethod) :=
    lacks_flatMap (fun m => by simp [interfaceMethod, closeBrace]) s.methods
  have hc := not_mem_of_lacks hl (List.prefix_refl closeBrace.toList)
  rw [Lines.interfaceMethods, useCaseFile_eq,
    block_append _ (interfaceHead_not_mem_preamble s packageName logged _) hc]
  exact seconds_flatMap s.methods

/-- The call by which a use case passes a method on to the repository. -/
def passedOn (m : Method) : String :=
  "\tdata, err := uc.repo." ++ m.name ++ "(ctx" ++ (signature m).argumentText ++ ")"

theorem methodsOf_useCaseFile (s : Service) (packageName : String) (logged : Bool) :
    (useCaseFile s packageName logged).methodsOf ("uc *" ++ useCaseName s.name) =
      s.methods.map fun m => ((signature m).text, passedOn m) := by
  have entity : Lines.Lacks "func (" ((entities s).flatMap entityLines) := by
    refine lacks_flatMap (fun e => ?_) _
    rw [entityLines, Struct.lines_eq]
    refine lacks_append.2 ⟨by simp, lacks_cons.2 ⟨by simp [structHead], ?_⟩⟩
    exact lacks_fieldLines rfl (by decide) (by decide) e.fields
  have methods : Lines.Lacks "func (" (s.methods.flatMap interfaceMethod) :=
    lacks_flatMap (fun m => by simp [interfaceMethod]) _
  have front : Lines.Lacks "func (" ([clause packageName, ""] ++ importLines logged
      ++ (entities s).flatMap entityLines ++ interfaceLines s.name s.methods
      ++ constructorLines s.name logged) := by
    simp [entity, methods, clause, importLines, interfaceLines, constructorLines, structHead,
      closeBrace]
  rw [useCaseFile, methodsOf_append_of_lacks front]
  -- the head of a method stands behind an empty line and a comment
  have method (m : Method) : useCaseMethod s.name logged m =
      ["", "// " ++ methodComment m] ++ methodHead ("uc *" ++ useCaseName s.name) (signature m) ::
        (useCaseMethod s.name logged m).drop 3 := rfl
  have body (m : Method) : Lines.Lacks "func (" ((useCaseMethod s.name logged m).drop 3) := by
    simp [useCaseMethod, closeBrace]
  exact methodsOf_flatMap method (fun m => by simp) (fun m => by simp [useCaseMethod]) body
    s.methods

end Domain

section Persistence
open Persistence

theorem methodsOf_repositoryFile (s : Service) (p : Packages) (packageName : String)
    (logged : Bool) :
    ((repositoryFile s p packageName logged).methodsOf
        ("r *" ++ implementationName s.name)).map Prod.fst =
      s.methods.map fun m => (signature (Naming.packageAlias p.domain) m).text := by
  have front : Lines.Lacks "func (" ([clause packageName, ""] ++ importLines s p logged
      ++ structLines s.name p logged ++ constructorLines s.name p logged) := by
    simp [clause, importLines, importLine, structLines, structHead, constructorLines, closeBrace]
  let lines := methodLines s.name (Naming.packageAlias p.domain) (p.cache ≠ "") logged
  have method (m : Method) : lines m =
      ["", "// " ++ m.name ++ " implements " ++ interfaceName s.name ++ "." ++ m.name ++ "."] ++
        methodHead ("r *" ++ implementationName s.name)
            (signature (Naming.packageAlias p.domain) m) ::
          (lines m).drop 3 := rfl
  have body (m : Method) : Lines.Lacks "func (" ((lines m).drop 3) := by
    simp [lines, methodLines, closeBrace]
  rw [repositoryFile, methodsOf_append_of_lacks front,
    methodsOf_flatMap method (fun m => by simp) (fun m => by simp [lines, methodLines]) body,
    List.map_map]
  rfl

end Persistence

/-! ## The main statement -/

/-- The repository, the interface and the use case have the methods of the service, in order, and
the use case passes every call on. A method of the repository implements that of the interface
unless the short name of its request is made of underscores alone. -/
theorem implements_interface_iff (s : Service) (p : Persistence.Packages)
    (packageName packageName' : String) (logged logged' : Bool) :
    ((Persistence.repositoryFile s p packageName logged).methodsOf
        ("r *" ++ Persistence.implementationName s.name)).map Prod.fst =
      s.methods.map (fun m =>
        (Persistence.signature (Naming.packageAlias p.domain) m).text) ∧
    (Domain.useCaseFile s packageName' logged').interfaceMethods (Domain.interfaceName s.name) =
      s.methods.map (fun m => "\t" ++ (Domain.signature m).text) ∧
    (Domain.useCaseFile s packageName' logged').methodsOf ("uc *" ++ Domain.useCaseName s.name) =
      s.methods.map (fun m => ((Domain.signature m).text, passedOn m)) ∧
    ∀ m ∈ s.methods, (Persistence.signature (Naming.packageAlias p.domain) m).Implements
        (Naming.packageAlias p.domain) (Domain.signature m) ↔
      ∃ c ∈ m.requestShort.toList, c ≠ '_' :=
  ⟨methodsOf_repositoryFile s p packageName logged,
    interfaceMethods_useCaseFile s packageName' logged',
    methodsOf_useCaseFile s packageName' logged', fun m _ => implements_iff _ m⟩

/-- A request called by the bare suffix leaves the interface without the parameter. -/
theorem request_without_parameter :
    ∃ e s m, Extraction.ofText "service A \x7b rpc Get(Request) returns (GetReply); \x7d\n" "a.proto"
        = .ok e ∧ s ∈ e.services ∧ m ∈ s.methods ∧
      ¬(Persistence.signature "domain" m).Implements "domain" (Domain.signature m) := by
  refine ⟨⟨[⟨"A", "", "", [⟨"Get", "Request", "GetReply", "", "Get", .unary⟩], [], [], "a.proto"⟩],
    [], "a.proto"⟩, _, _, by with_unfolding_all rfl, .head _, .head _, ?_⟩
  rw [implements_iff]
  simp

end ServiceScaffold.Skeleton

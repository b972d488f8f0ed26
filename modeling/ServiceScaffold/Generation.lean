import ServiceScaffold.Files.Disk
import ServiceScaffold.Skeleton.Domain
import ServiceScaffold.Skeleton.Persistence

/-!
# Writing the files of a layer

A layer of a schema is a plan: the paths of its files and their texts, one file for each service
and one for the models. `generate` makes the directory and then writes the plan in order. A file
that exists is skipped, never replaced; a failure ends the run and leaves what was written.
-/
namespace ServiceScaffold
open Files

inductive Layer where
  | domain
  | persistence
  deriving DecidableEq, Repr

structure Options where
  directory : String
  packages : Skeleton.Persistence.Packages
  logged : Bool
  deriving DecidableEq, Repr

def Options.default : Options := ⟨"", .default, true⟩

namespace Layer

def defaultDirectory : Layer → String
  | domain => Skeleton.Domain.defaultDirectory
  | persistence => Skeleton.Persistence.defaultDirectory

def defaultPackage : Layer → String
  | domain => Skeleton.Domain.defaultPackage
  | persistence => Skeleton.Persistence.defaultPackage

def directory (l : Layer) (o : Options) : String :=
  if o.directory = "" then l.defaultDirectory else o.directory

def packageName (l : Layer) (o : Options) : String :=
  Skeleton.packageName (l.directory o) l.defaultPackage

def serviceFileName (l : Layer) (s : Model.Service) : String :=
  Naming.lower s.name ++ match l with
    | domain => ".go"
    | persistence => "_repo.go"

def serviceFile (l : Layer) (o : Options) (s : Model.Service) : Skeleton.Lines :=
  match l with
  | domain => Skeleton.Domain.useCaseFile s (l.packageName o) o.logged
  | persistence => Skeleton.Persistence.repositoryFile s o.packages (l.packageName o) o.logged

def modelFileName : String := "model.go"

def modelFile (l : Layer) (o : Options) (s : Model.Service) : Skeleton.Lines :=
  match l with
  | domain => Skeleton.Domain.modelFile s (l.packageName o)
  | persistence => Skeleton.Persistence.modelFile s (l.packageName o)

/-- The names and texts of a layer's files. All services of a schema have its messages, so that
the first one serves for the models. -/
def outputs (l : Layer) (o : Options) (services : List Model.Service) :
    List (String × String) :=
  services.map (fun s => (l.serviceFileName s, (l.serviceFile o s).text))
    ++ services.head?.toList.map fun s => (modelFileName, (l.modelFile o s).text)

/-- The outputs under the paths where they are to be written. -/
def plan (l : Layer) (o : Options) (services : List Model.Service) : List (String × String) :=
  (l.outputs o services).map fun (name, text) => (Path.join (l.directory o) name, text)

end Layer

/-- The paths of a plan, sorted by whether a file was written or stood there already. -/
structure Written where
  generated : List String
  skipped : List String
  deriving DecidableEq, Repr

/-- Writes the files of a plan that do not exist. -/
def writePlan (d : Disk) : List (String × String) → Except AccessError Written × Disk
  | [] => (.ok ⟨[], []⟩, d)
  | (path, text) :: rest =>
    match d.create path (Text.Utf8.encode text) with
    | .ok d =>
      let (r, d) := writePlan d rest
      (r.map fun w => { w with generated := path :: w.generated }, d)
    | .error (.refused .exists _) =>
      let (r, d) := writePlan d rest
      (r.map fun w => { w with skipped := path :: w.skipped }, d)
    | .error e => (.error e, d)

/-- How a run ended: its result, the disk it left, and what it warned of. -/
structure Generation where
  result : Except AccessError Written
  disk : Disk
  warnings : List Model.Warning

def generate (l : Layer) (services : List Model.Service) (o : Options) (d : Disk) :
    Generation :=
  match d.makeDirectories (l.directory o).toList with
  | (some e, d) => ⟨.error e, d, []⟩
  | (none, d) =>
    let (result, d) := writePlan d (l.plan o services)
    ⟨result, d, services.head?.toList.flatMap Model.Service.repetitions⟩

end ServiceScaffold

import ServiceScaffold.Skeleton.Source
import ServiceScaffold.Model.Distinct
import ServiceScaffold.Naming

/-!
# The domain layer

For each service a file with the entities behind its requests, the interface of its repository
and a use case that passes every call on to the repository; for the whole schema a file with a
struct for each message.
-/
namespace ServiceScaffold.Skeleton.Domain
open Model Naming

def defaultDirectory : String := "internal/biz"

def defaultPackage : String := "biz"

/-! ## Structs -/

def modelField (f : Field) : StructField :=
  ⟨upperCamel f.name, goType f.type, none, comment? f.typeName⟩

def modelStruct (m : Message) : Struct :=
  ⟨m.name, m.fields.map modelField⟩

def entityField (f : Field) : StructField :=
  ⟨upperCamel f.name, goType f.type, none, some f.name⟩

/-- A method's request needs an entity unless a message of that name is declared, which has its
struct among the models. -/
def needsEntity (s : Service) (m : Method) : Bool :=
  m.requestShort ≠ "" && (s.message? m.requestShort).isNone

/-- The fields of the request message, where the schema declares it. -/
def entityFields (s : Service) (m : Method) : List StructField :=
  match s.message? (bare m.requestFull) with
  | some message => message.fields.map entityField
  | none => []

/-- One entity for each request name, from the first method that uses it. -/
def entities (s : Service) : List Struct :=
  (firsts Method.requestShort (s.methods.filter (needsEntity s))).map fun m =>
    ⟨m.requestShort, entityFields s m⟩

/-! ## Methods -/

/-- A request whose short name is empty is not passed. -/
def parameter? (m : Method) : Option Parameter :=
  if lowerCamel m.requestShort = "" then none
  else some ⟨lowerCamel m.requestShort, "*" ++ m.requestShort⟩

def signature (m : Method) : Signature :=
  ⟨m.name, parameter? m, "*" ++ m.responseShort⟩

def streamingNote : Streaming → String
  | .unary => ""
  | .client => " (client streaming rpc)"
  | .server => " (server streaming rpc)"
  | .both => " (bidirectional rpc)"

def methodComment (m : Method) : String :=
  m.name ++ " handles " ++ m.requestFull ++ streamingNote m.streaming

def interfaceMethod (m : Method) : Lines :=
  ["\t// " ++ methodComment m, "\t" ++ (signature m).text]

def useCaseName (service : String) : String := service ++ "UseCase"

def interfaceName (service : String) : String := service ++ "Repo"

def useCaseMethod (service : String) (logged : Bool) (m : Method) : Lines :=
  ["", "// " ++ methodComment m, methodHead ("uc *" ++ useCaseName service) (signature m),
   "\tdata, err := uc.repo." ++ m.name ++ "(ctx" ++ (signature m).argumentText ++ ")",
   "\tif err != nil " ++ openBrace]
  ++ given logged ["\t\tuc.log.Errorf(\"" ++ m.name ++ " repo operation failed: %v\", err)"]
  ++ ["\t\treturn nil, err", "\t" ++ closeBrace, "", "\treturn data, nil", closeBrace]

/-! ## Files -/

def entityLines (e : Struct) : Lines :=
  ["", "// " ++ e.name ++ " is the domain entity behind " ++ e.name ++ " requests."] ++ e.lines

def importLines (logged : Bool) : Lines :=
  ["import (", "\t\"context\""]
  ++ given logged ["", "\t\"github.com/go-kratos/kratos/v2/log\""]
  ++ [")"]

def interfaceLines (service : String) (methods : List Method) : Lines :=
  ["", "// " ++ interfaceName service ++ " is implemented by the data layer.",
   "type " ++ interfaceName service ++ " interface " ++ openBrace]
  ++ methods.flatMap interfaceMethod ++ [closeBrace]

def constructorLines (service : String) (logged : Bool) : Lines :=
  ["", "// " ++ useCaseName service ++ " holds the business rules of " ++ service ++ ".",
   structHead (useCaseName service), "\trepo " ++ interfaceName service]
  ++ given logged ["\tlog  *log.Helper"]
  ++ [closeBrace, "",
   "// New" ++ useCaseName service ++ " creates a " ++ useCaseName service ++ ".",
   "func New" ++ useCaseName service ++ "(repo " ++ interfaceName service
     ++ (if logged then ", logger log.Logger" else "") ++ ") *" ++ useCaseName service ++ " "
     ++ openBrace,
   "\treturn &" ++ useCaseName service ++ openBrace, "\t\trepo: repo,"]
  ++ given logged
    ["\t\tlog:  log.NewHelper(log.With(logger, \"module\", \"usecase/" ++ lower service ++ "\")),"]
  ++ ["\t" ++ closeBrace, closeBrace]

def useCaseFile (s : Service) (packageName : String) (logged : Bool) : Lines :=
  [clause packageName, ""] ++ importLines logged ++ (entities s).flatMap entityLines
  ++ interfaceLines s.name s.methods ++ constructorLines s.name logged
  ++ s.methods.flatMap (useCaseMethod s.name logged)

def modelLines (m : Message) : Lines :=
  ["", "// " ++ m.name ++ " is the domain model for " ++ m.name] ++ (modelStruct m).lines

def modelFile (s : Service) (packageName : String) : Lines :=
  [clause packageName, "", "// Domain models generated from proto messages"]
  ++ s.distinctMessages.flatMap modelLines

end ServiceScaffold.Skeleton.Domain

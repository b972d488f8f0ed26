import ServiceScaffold.Skeleton.Source
import ServiceScaffold.Model.Distinct
import ServiceScaffold.Naming

/-!
# The persistence layer

For each service a file with an implementation of the repository interface that the domain layer
declares; for the whole schema a file with a struct and a table name for each message.
-/
namespace ServiceScaffold.Skeleton.Persistence
open Model Naming

def defaultDirectory : String := "internal/data"

def defaultPackage : String := "data"

/-- The packages that a repository imports; an empty path leaves one out, except that of the
domain. -/
structure Packages where
  domain : String
  proto : String
  database : String
  cache : String
  deriving DecidableEq, Repr

def Packages.default : Packages := ⟨"internal/domain", "", "gorm.io/gorm", ""⟩

/-! ## Structs -/

def jsonTag (name : String) : String :=
  "\x60json:\"" ++ name ++ "\"\x60"

def modelField (f : Field) : StructField :=
  ⟨upperCamel f.name, goType f.type, some (jsonTag f.name), comment? f.typeName⟩

/-- The fields that every table has. -/
def stampFields : List StructField :=
  [⟨"CreatedAt", "time.Time", none, none⟩, ⟨"UpdatedAt", "time.Time", none, none⟩]

def modelStruct (m : Message) : Struct :=
  ⟨m.name, m.fields.map modelField ++ stampFields⟩

def tableName (m : Message) : String := snake m.name

def modelLines (m : Message) : Lines :=
  ["", "// " ++ m.name ++ " is the data model for " ++ m.name] ++ (modelStruct m).lines
  ++ ["", "// TableName returns the table name for " ++ m.name,
   "func (" ++ m.name ++ ") TableName() string " ++ openBrace,
   "\treturn \"" ++ tableName m ++ "\"", closeBrace]

def modelFile (s : Service) (packageName : String) : Lines :=
  [clause packageName, "", "import (", "\t\"time\"", ")", "",
   "// Data models for database operations"]
  ++ s.distinctMessages.flatMap modelLines

/-! ## Methods -/

/-- A type of the domain package, seen from another one. -/
def domainType (domain name : String) : String :=
  domain ++ "." ++ name

def signature (domain : String) (m : Method) : Signature :=
  ⟨m.name, some ⟨"req", "*" ++ domainType domain m.requestShort⟩,
    "*" ++ domainType domain m.responseShort⟩

def implementationName (service : String) : String := service ++ "RepoImpl"

def interfaceName (service : String) : String := service ++ "Repo"

def methodLines (service domain : String) (cached logged : Bool) (m : Method) : Lines :=
  ["", "// " ++ m.name ++ " implements " ++ interfaceName service ++ "." ++ m.name ++ ".",
   methodHead ("r *" ++ implementationName service) (signature domain m)]
  ++ given logged
    ["\tr.log.WithContext(ctx).Infof(\"" ++ m.name ++ " data layer start, req: %+v\", req)"]
  ++ ["\t// Query the database" ++ (if cached then " and cache" else "")
     ++ " and map the result.",
   "\tresult := &" ++ domainType domain m.responseShort ++ openBrace ++ closeBrace]
  ++ given logged
    ["\tr.log.WithContext(ctx).Infof(\"" ++ m.name
      ++ " data layer success, result: %+v\", result)"]
  ++ ["\treturn result, nil", closeBrace]

/-! ## The repository -/

def importLine (path : String) : String := "\t\"" ++ path ++ "\""

/-- The package given for the schema wins over the one that the schema itself names. -/
def protoPackage (s : Service) (p : Packages) : String :=
  if p.proto = "" then s.goPackage else p.proto

def importLines (s : Service) (p : Packages) (logged : Bool) : Lines :=
  ["import (", importLine "context"]
  ++ given logged ["", importLine "github.com/go-kratos/kratos/v2/log"]
  ++ given (p.database ≠ "") [importLine p.database]
  ++ given (p.cache ≠ "") [importLine p.cache]
  ++ given (protoPackage s p ≠ "") ["\t_ \"" ++ protoPackage s p ++ "\""]
  ++ ["", importLine p.domain, ")"]

def structLines (service : String) (p : Packages) (logged : Bool) : Lines :=
  ["", "// " ++ implementationName service ++ " implements "
     ++ domainType (packageAlias p.domain) (interfaceName service) ++ ".",
   structHead (implementationName service)]
  ++ given (p.database ≠ "") ["\tdb    *" ++ packageAlias p.database ++ ".DB"]
  ++ given (p.cache ≠ "") ["\tcache *" ++ packageAlias p.cache ++ ".Client"]
  ++ given logged ["\tlog   *log.Helper"]
  ++ [closeBrace]

def constructorLines (service : String) (p : Packages) (logged : Bool) : Lines :=
  ["", "// New" ++ interfaceName service ++ " creates the " ++ service ++ " repository.",
   "func New" ++ interfaceName service ++ "("]
  ++ given (p.database ≠ "") ["\tdb *" ++ packageAlias p.database ++ ".DB,"]
  ++ given (p.cache ≠ "") ["\tcache *" ++ packageAlias p.cache ++ ".Client,"]
  ++ given logged ["\tlogger log.Logger,"]
  ++ [") " ++ domainType (packageAlias p.domain) (interfaceName service) ++ " " ++ openBrace,
   "\treturn &" ++ implementationName service ++ openBrace]
  ++ given (p.database ≠ "") ["\t\tdb:    db,"]
  ++ given (p.cache ≠ "") ["\t\tcache: cache,"]
  ++ given logged ["\t\tlog:   log.NewHelper(logger),"]
  ++ ["\t" ++ closeBrace, closeBrace]

def repositoryFile (s : Service) (p : Packages) (packageName : String) (logged : Bool) : Lines :=
  [clause packageName, ""] ++ importLines s p logged ++ structLines s.name p logged
  ++ constructorLines s.name p logged
  ++ s.methods.flatMap
    (methodLines s.name (packageAlias p.domain) (p.cache ≠ "") logged)

end ServiceScaffold.Skeleton.Persistence

import ServiceScaffold.Files.Path
import ServiceScaffold.Model.Service
import ServiceScaffold.Text.Identifier

/-!
# Types and packages of Go source

The Go type of a model's field type, and the package clause for files of a directory.
-/
namespace ServiceScaffold.Skeleton

/-- The Go types of the types that need no declaration. -/
def scalarType? : String → Option String
  | "int32" => some "int32"
  | "sint32" => some "int32"
  | "sfixed32" => some "int32"
  | "uint32" => some "uint32"
  | "fixed32" => some "uint32"
  | "int64" => some "int64"
  | "sint64" => some "int64"
  | "sfixed64" => some "int64"
  | "uint64" => some "uint64"
  | "fixed64" => some "uint64"
  | "float" => some "float32"
  | "float32" => some "float32"
  | "double" => some "float64"
  | "float64" => some "float64"
  | "bool" => some "bool"
  | "string" => some "string"
  | "bytes" => some "[]byte"
  | _ => none

/-- A type that is declared elsewhere is referred to by a pointer. -/
def singleType (type : String) : String :=
  (scalarType? type).getD ("*" ++ type)

def goType (fieldType : String) : String :=
  if Model.isRepeated fieldType then
    Model.repeatedMark ++ singleType (Model.elementType fieldType)
  else singleType fieldType

/-- The last name of a directory's path, or `default` when that is no identifier. -/
def packageName (directory default : String) : String :=
  let name := Files.Path.base (Files.Path.normal directory)
  if Text.isIdentifier name then name else default

end ServiceScaffold.Skeleton

import ServiceScaffold.Model.Service
import ServiceScaffold.Naming
import ServiceScaffold.Schema.Event
import ServiceScaffold.Text.Blank

/-!
# From events to services

A `Draft` is what the events seen so far say: the packages, the imports, and the messages and
services opened. A field belongs to the message opened last and an rpc to the service opened
last; either is dropped when none is open. An rpc whose types lack the customary suffixes is
kept, with a warning for each of them.
-/
namespace ServiceScaffold.Model
open Naming Text

inductive Warning where
  | missingSuffix (method typeName suffix : String)
  | repeatedMessage (name : String)
  deriving DecidableEq, Repr

def Warning.message : Warning → String
  | .missingSuffix method typeName suffix =>
    "rpc " ++ method ++ ": type '" ++ typeName ++ "' does not end in '" ++ suffix
      ++ "'; using it unchanged"
  | .repeatedMessage name =>
    "message " ++ name ++ " declared more than once; only the first is rendered"

/-- The type of a field in a model: the bare name of its declared type, marked when repeated. -/
def fieldType (typeName : String) (repeated : Bool) : String :=
  if repeated then repeatedMark ++ bare typeName else bare typeName

def Field.ofSchema (f : Schema.Field) : Field :=
  ⟨f.name, fieldType f.typeName f.repeated, f.number⟩

/-- The bare name of a request or response type without its customary suffix. -/
def shortName (suffix qualified : String) : String :=
  withoutSuffix suffix (bare qualified)

def suffixWarnings (method suffix qualified : String) : List Warning :=
  match Naming.dropSuffix? suffix (bare qualified) with
  | some _ => []
  | none => [.missingSuffix method (bare qualified) suffix]

def Method.ofRpc (r : Schema.Rpc) : Method :=
  { name := declared r.name
    requestFull := relative r.requestType
    responseFull := relative r.responseType
    requestShort := shortName requestSuffix r.requestType
    responseShort := shortName replySuffix r.responseType
    streaming := .ofFlags r.requestStream r.responseStream }

def rpcWarnings (r : Schema.Rpc) : List Warning :=
  suffixWarnings (declared r.name) requestSuffix r.requestType
    ++ suffixWarnings (declared r.name) replySuffix r.responseType

def goPackageSetting : String := "go_package"

/-- The import path in the value of a `go_package` setting, which may name an alias behind a
semicolon. -/
def goPackagePath (value : String) : String :=
  String.ofList (trim (beforeFirst ';' value.toList))

/-- What the events so far say. Messages, services and the methods of a service are kept with
the newest first. -/
structure Draft where
  protoPackage : String
  goPackage : String
  imports : List String
  messages : List Message
  services : List (String × List Method)
  warnings : List Warning
  deriving DecidableEq, Repr

namespace Draft

def empty : Draft := ⟨"", "", [], [], [], []⟩

def addField (f : Field) : List Message → List Message
  | [] => []
  | m :: ms => { m with fields := m.fields ++ [f] } :: ms

def step (d : Draft) : Schema.Event → Draft
  | .statement (.package name) => { d with protoPackage := name }
  | .statement (.importing i) => { d with imports := d.imports ++ [i.path] }
  | .setting s =>
    if s.name = goPackageSetting then { d with goPackage := goPackagePath s.value } else d
  | .message name => { d with messages := ⟨name, []⟩ :: d.messages }
  | .statement (.field f) => { d with messages := addField (.ofSchema f) d.messages }
  | .service name => { d with services := (declared name, []) :: d.services }
  | .rpc r =>
    match d.services with
    | [] => d
    | (name, methods) :: older =>
      { d with services := (name, .ofRpc r :: methods) :: older
               warnings := d.warnings ++ rpcWarnings r }
  | _ => d

def ofEvents (events : List Schema.Event) : Draft :=
  events.foldl step empty

/-- The services of a draft in the order of their declaration. -/
def toServices (d : Draft) (sourceFile : String) : List Service :=
  d.services.reverse.map fun (name, methods) =>
    { name := name
      protoPackage := d.protoPackage
      goPackage := d.goPackage
      methods := methods.reverse
      messages := d.messages.reverse
      importPaths := d.imports
      sourceFile := sourceFile }

end Draft

end ServiceScaffold.Model

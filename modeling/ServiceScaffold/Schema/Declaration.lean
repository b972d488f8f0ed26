/-!
# Declarations

A schema file as a list of declarations in the order of its text. Messages nest; what the rest
of the library does not use is kept as far as it can be named: the body of an extension or of a
group is not, and ranges and aggregate values are kept as text.
-/
namespace ServiceScaffold.Schema

/-- The word before a field's type. -/
inductive Label where
  | bare
  | repeated
  | optional
  | required
  deriving DecidableEq, Repr

def Label.text : Label → String
  | .bare => ""
  | .repeated => "repeated"
  | .optional => "optional"
  | .required => "required"

/-- A field. Being repeated is kept beside the label, since a compiled schema may give both
without agreement. -/
structure Field where
  typeName : String
  name : String
  number : Int
  repeated : Bool
  label : Label
  deriving DecidableEq, Repr

structure MapField where
  keyType : String
  valueType : String
  name : String
  number : Int
  deriving DecidableEq, Repr

structure Oneof where
  name : String
  fields : List Field
  deriving DecidableEq, Repr

structure Group where
  name : String
  number : Int
  label : Label
  deriving DecidableEq, Repr

structure Enumeration where
  name : String
  values : List String
  deriving DecidableEq, Repr

structure Setting where
  name : String
  value : String
  deriving DecidableEq, Repr

inductive ImportKind where
  | plain
  | reexported
  | weak
  deriving DecidableEq, Repr

def ImportKind.text : ImportKind → String
  | .plain => ""
  | .reexported => "public"
  | .weak => "weak"

structure Import where
  path : String
  kind : ImportKind
  deriving DecidableEq, Repr

/-- A declaration in which no other stands. Where each may stand is for the grammar to say. -/
inductive Statement where
  | dialect (value : String)
  | package (name : String)
  | importing (i : Import)
  | field (f : Field)
  | mapField (f : MapField)
  | group (g : Group)
  | enumeration (e : Enumeration)
  | reserved (text : String)
  | extensions (text : String)
  | extend (extendee : String)
  deriving DecidableEq, Repr

inductive MessageElement where
  | statement (s : Statement)
  | oneof (o : Oneof)
  | setting (s : Setting)
  | message (name : String) (elements : List MessageElement)
  deriving Repr, Inhabited

structure Message where
  name : String
  elements : List MessageElement
  deriving Repr

structure Rpc where
  name : String
  requestType : String
  responseType : String
  requestStream : Bool
  responseStream : Bool
  settings : List Setting
  deriving DecidableEq, Repr

inductive ServiceElement where
  | rpc (r : Rpc)
  | setting (s : Setting)
  deriving DecidableEq, Repr

structure Service where
  name : String
  elements : List ServiceElement
  deriving DecidableEq, Repr

inductive Declaration where
  | statement (s : Statement)
  | setting (s : Setting)
  | message (m : Message)
  | service (s : Service)
  deriving Repr

/-- A whole schema file. -/
abbrev File := List Declaration

/-- The fields that a message declares directly: none of a map, of a oneof or of a group. -/
def directFields (elements : List MessageElement) : List Field :=
  elements.filterMap fun
    | .statement (.field f) => some f
    | _ => none

def nestedMessages (elements : List MessageElement) : List Message :=
  elements.filterMap fun
    | .message name elements => some ⟨name, elements⟩
    | _ => none

def Service.rpcs (s : Service) : List Rpc :=
  s.elements.filterMap fun
    | .rpc r => some r
    | .setting _ => none

def File.messages (f : File) : List Message :=
  f.filterMap fun
    | .message m => some m
    | _ => none

def File.services (f : File) : List Service :=
  f.filterMap fun
    | .service s => some s
    | _ => none

end ServiceScaffold.Schema

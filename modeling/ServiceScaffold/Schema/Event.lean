import ServiceScaffold.Schema.Declaration

/-!
# A schema as a stream of events

`File.events` names every declaration of a file once, in the order of the text except that a
message's own elements come before any message nested in it: what has been opened last is then
the message to which a field belongs. Settings count as declarations of the file only. There is no
limit to the depth of nested messages, as there is none in the grammar.
-/
namespace ServiceScaffold.Schema

inductive Event where
  | statement (s : Statement)
  | setting (s : Setting)
  | message (name : String)
  | oneof (name : String)
  | oneofField (f : Field)
  | service (name : String)
  | rpc (r : Rpc)
  deriving DecidableEq, Repr

/-- The field number that an event brings. -/
def Event.number? : Event → Option Int
  | .statement (.field f) => some f.number
  | .statement (.mapField f) => some f.number
  | .statement (.group g) => some g.number
  | .oneofField f => some f.number
  | _ => none

/-- The events of an element that is no nested message. -/
def MessageElement.ownEvents : MessageElement → List Event
  | .statement s => [.statement s]
  | .oneof o => .oneof o.name :: o.fields.map .oneofField
  | .setting _ => []
  | .message _ _ => []

/-- The events of the messages among the elements, each with all that is nested in it. -/
def nestedEvents : List MessageElement → List Event
  | [] => []
  | .message name elements :: rest =>
    .message name :: elements.flatMap MessageElement.ownEvents ++ nestedEvents elements
      ++ nestedEvents rest
  | _ :: rest => nestedEvents rest

def Message.events (m : Message) : List Event :=
  .message m.name :: m.elements.flatMap MessageElement.ownEvents ++ nestedEvents m.elements

def Service.events (s : Service) : List Event :=
  .service s.name :: s.rpcs.map .rpc

def Declaration.events : Declaration → List Event
  | .statement s => [.statement s]
  | .setting s => [.setting s]
  | .message m => m.events
  | .service s => s.events

def File.events (f : File) : List Event :=
  f.flatMap Declaration.events

def File.numbers (f : File) : List Int :=
  f.events.filterMap Event.number?

end ServiceScaffold.Schema

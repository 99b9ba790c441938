import DialogueScript.Scalar

/-! # What is logged -/
namespace DialogueScript

/-- How detailed an event is, from the least. -/
inductive Level
  | error
  | warn
  | info
  | debug
  | trace
  deriving DecidableEq, Repr

namespace Level

def all : List Level := [error, warn, info, debug, trace]

def name : Level → String
  | error => "ERROR"
  | warn => "WARN"
  | info => "INFO"
  | debug => "DEBUG"
  | trace => "TRACE"

def detail : Level → Nat
  | error => 1
  | warn => 2
  | info => 3
  | debug => 4
  | trace => 5

end Level

/-- A message with fields, sent by the part of the program that `target` names. -/
structure Event where
  level : Level
  target : String
  message : String
  fields : List Field
  deriving DecidableEq, Repr

/-- Whether an event has a field of a name. Its message is one too. -/
def Event.hasField (event : Event) (name : String) : Bool :=
  name = "message" || event.fields.any fun field => field.1 = name

/-- The value of a field as it is logged: a text is not quoted. -/
def Scalar.logged : Scalar → String
  | text value => value
  | flag value => flagText value
  | number value => Nat.repr value

/-- The level, the target, the message, and the fields. The subscriber that writes the line puts the
time before it and colours it; both are left out. -/
def Event.line (event : Event) : String :=
  event.level.name ++ " " ++ event.target ++ ": " ++ event.message ++
    String.join (event.fields.map fun field => " " ++ field.1 ++ "=" ++ field.2.logged)

end DialogueScript

namespace TypeGuard.Log

/-- How much an event matters, from most to least. -/
inductive Level where
  | error
  | warn
  | info
  | debug
  | trace
deriving Repr, DecidableEq

namespace Level

/-- The place of a level, from 1 for the level that matters most. -/
def rank : Level → Nat
  | error => 1
  | warn => 2
  | info => 3
  | debug => 4
  | trace => 5

def name : Level → String
  | error => "ERROR"
  | warn => "WARN"
  | info => "INFO"
  | debug => "DEBUG"
  | trace => "TRACE"

end Level

inductive Value where
  | text (s : String)
  | number (n : Nat)
  | flag (b : Bool)
deriving Repr, DecidableEq

def Value.render : Value → String
  | text s => s
  | number n => toString n
  | flag b => if b then "true" else "false"

/-- An event: what happened, in which part of the program, and its details. -/
structure Event where
  level : Level
  target : String
  message : String
  fields : List (String × Value) := []
deriving Repr, DecidableEq

/-- All fields of an event, with its message in front as a field of that name. -/
def Event.allFields (e : Event) : List (String × Value) :=
  ("message", .text e.message) :: e.fields

def Event.hasField (e : Event) (name : List Char) : Bool :=
  e.allFields.any fun field => field.1.toList == name

/-- A value and the events of its computation, in order. -/
structure Recorded (α : Type) where
  value : α
  events : List Event
deriving Repr, DecidableEq

def Recorded.after {α : Type} (events : List Event) (r : Recorded α) : Recorded α :=
  { r with events := events ++ r.events }

end TypeGuard.Log

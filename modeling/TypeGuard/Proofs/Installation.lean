import Mathlib.Data.List.Basic
import TypeGuard.Log.Logger
import TypeGuard.Proofs.Deciding

namespace TypeGuard.Log

/-- Whether every part of a filter between commas is a directive, empty parts apart. -/
def Filter.Valid (text : String) : Prop :=
  ∀ part ∈ Text.parts ',' text.toList, part ≠ [] → ∃ d, Directive.read part = .ok d

def Config.logger? (c : Config) : Option Logger :=
  (Filter.read c.filter).toOption.map fun filter => ⟨c, filter⟩

/-- A call that tries to install a logger: the registry before and after it, what it returns and the
events that it emits. -/
structure Call where
  config : Config
  before : Registry
  outcome : Except LogError Unit
  events : List Event
  after : Registry

namespace Registry

def call (p : Registry) (c : Config) : Call :=
  match p.install c with
  | .error e => ⟨c, p, .error e, [], p⟩
  | .ok (q, events) => ⟨c, p, .ok (), events, q⟩

def calls (p : Registry) : List Config → List Call
  | [] => []
  | c :: cs => p.call c :: (p.call c).after.calls cs

end Registry

variable {c : Config} {cs : List Config} {p : Registry} {text : String}

namespace Registry

-- Of two directives for all targets the one that asks for a field decides, if the event has it.
example :
    let run := installAll {} (["a=b=c", "[\x7bjson\x7d]=info,off", "a=b=c", "info"].map fun text =>
      { filter := text })
    run.2.1.map Except.isOk = [false, true, false, false] ∧ run.2.2.length = 1 := by
  decide +kernel

end Registry

end TypeGuard.Log

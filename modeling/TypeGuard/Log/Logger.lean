import TypeGuard.Log.Config
import TypeGuard.Log.Filter
import TypeGuard.Log.Line
import TypeGuard.Text.Quoted

namespace TypeGuard.Log

inductive LogError where
  | invalidFilter (text reason : String)
  | alreadyInstalled
deriving Repr, DecidableEq

def LogError.message : LogError → String
  | invalidFilter text reason => "Invalid log filter " ++ Text.quoted text ++ ": " ++ reason
  | alreadyInstalled => "A global subscriber is already installed"

def Config.readFilter (c : Config) : Except LogError Filter :=
  (Filter.read c.filter).mapError fun problem => .invalidFilter c.filter problem.message

structure Logger where
  config : Config
  filter : Filter
deriving Repr, DecidableEq

def Logger.lines (l : Logger) (events : List Event) : List Line :=
  (events.filter l.filter.admits).map l.config.lineOf

/-- The place of a process for its logger. -/
structure Registry where
  logger? : Option Logger := none
deriving Repr, DecidableEq

namespace Registry

def started (c : Config) : Event where
  level := .info
  target := "act_telemetry"
  message := "Logging initialized"
  fields := [("service", .text c.service), ("level", .text c.filter), ("json", .flag c.json)]

/-- Installs a logger. The filter is checked first; then there must be no logger yet. -/
def install (p : Registry) (c : Config) : Except LogError (Registry × List Event) :=
  match c.readFilter, p.logger? with
  | .error e, _ => .error e
  | .ok _, some _ => .error .alreadyInstalled
  | .ok filter, none => .ok (⟨some ⟨c, filter⟩⟩, [started c])

def lines (p : Registry) (events : List Event) : List Line :=
  match p.logger? with
  | none => []
  | some l => l.lines events

/-- Tries to install a logger for each of several settings in turn. Gives the registry afterwards,
the outcome of each try and the lines written. -/
def installAll (p : Registry) : List Config → Registry × List (Except LogError Unit) × List Line
  | [] => (p, [], [])
  | c :: cs =>
    match p.install c with
    | .error e =>
      let (q, outcomes, ls) := p.installAll cs
      (q, .error e :: outcomes, ls)
    | .ok (p', events) =>
      let (q, outcomes, ls) := p'.installAll cs
      (q, .ok () :: outcomes, p'.lines events ++ ls)

end Registry

end TypeGuard.Log

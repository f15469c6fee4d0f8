import TypeGuard.Log.Event
import TypeGuard.Log.Pattern
import TypeGuard.Text.Alphanumeric
import TypeGuard.Text.Parts

namespace TypeGuard.Log

inductive FilterProblem where
  | directive
  | level
  | field (problem : PatternProblem)
deriving Repr, DecidableEq

def FilterProblem.message : FilterProblem → String
  | directive => "invalid filter directive"
  | level =>
    "error parsing level filter: expected one of \"off\", \"error\", \"warn\", \"info\", " ++
      "\"debug\", \"trace\", or a number 0-5"
  | field p => "invalid field filter: " ++ p.message

/-- What events must have to pass: a level that matters at least as much, or nothing will do. -/
abbrev Threshold := Option Level

def Threshold.admits (t : Threshold) (level : Level) : Bool :=
  match t with
  | none => false
  | some least => level.rank ≤ least.rank

/-- The threshold with a rank, from 0 for the one that nothing passes. -/
def Threshold.ofRank? : Nat → Option Threshold
  | 0 => some none
  | 1 => some (some .error)
  | 2 => some (some .warn)
  | 3 => some (some .info)
  | 4 => some (some .debug)
  | 5 => some (some .trace)
  | _ => none

def thresholdNames : List String := ["off", "error", "warn", "info", "debug", "trace"]

/-- The number that decimal digits after an optional plus sign stand for. -/
def rank? (cs : List Char) : Option Nat :=
  let ds := if cs.head? = some '+' then cs.tail else cs
  if ds.isEmpty || !ds.all Char.isDigit then none
  else some (ds.foldl (fun n c => 10 * n + (c.toNat - 48)) 0)

def Threshold.read? (cs : List Char) : Option Threshold :=
  match rank? cs with
  | some n => Threshold.ofRank? n
  | none =>
    (thresholdNames.findIdx? fun name => name.toList == cs.map Char.toLower).bind
      Threshold.ofRank?

/-- A field that a directive asks for; `valued` tells that it asks for a value of the field too. -/
structure FieldTest where
  name : List Char
  valued : Bool
deriving Repr, DecidableEq

/-- A directive, in full `target[span{field=value}]=level`. Without a target it is for all
targets. -/
structure Directive where
  target? : Option (List Char) := none
  /-- Whether a span is named, be it by the empty name. -/
  inSpan : Bool := false
  field? : Option FieldTest := none
  threshold : Threshold
deriving Repr, DecidableEq

namespace Directive

/-- Reads the level of a directive. Without one, everything passes. -/
def level (cs : List Char) : Except FilterProblem Threshold :=
  if cs.isEmpty then .ok (some .trace)
  else match Threshold.read? cs with
    | some t => .ok t
    | none => .error .level

def afterSpan (d : Directive) : List Char → Except FilterProblem Directive
  | [] => .ok d
  | '=' :: cs => (level cs).map fun t => { d with threshold := t }
  | _ :: _ => .error .directive

/-- Whether digits, a fraction and an exponent make a number, or a name does. -/
def isUnsigned (cs : List Char) : Bool :=
  let (whole, rest) := cs.span Char.isDigit
  let (fraction, rest) := match rest with
    | '.' :: rest => rest.span Char.isDigit
    | rest => ([], rest)
  let exponent := match rest with
    | [] => true
    | e :: '+' :: ds | e :: '-' :: ds | e :: ds =>
      e.toLower == 'e' && !ds.isEmpty && ds.all Char.isDigit
  ["inf", "infinity", "nan"].contains (String.ofList (cs.map Char.toLower)) ||
    (!(whole.isEmpty && fraction.isEmpty) && exponent)

/-- The problem of a value of a field. All numbers read as patterns too, but those with a plus
sign. -/
def valueProblem? : List Char → Option PatternProblem
  | '+' :: cs => if isUnsigned cs then none else some .malformed
  | cs => Pattern.problem? cs

/-- Reads a field. Its value stands between its name and a second sign of equality. -/
def fieldTest (cs : List Char) : Except FilterProblem FieldTest :=
  match Text.parts '=' cs with
  | name :: value :: _ =>
    match valueProblem? value with
    | some p => .error (.field p)
    | none => .ok ⟨name, true⟩
  | _ => .ok ⟨cs, false⟩

def fieldRest (d : Directive) (cs : List Char) : Except FilterProblem Directive :=
  let (field, rest) := cs.span (· ≠ '\x7d')
  if field.isEmpty || rest.isEmpty then .error .directive
  else match fieldTest field, rest.tail with
    | .error problem, _ => .error problem
    | .ok test, ']' :: cs => afterSpan { d with field? := some test } cs
    | .ok _, _ => .error .directive

def spanRest (d : Directive) (cs : List Char) : Except FilterProblem Directive :=
  let (name, rest) := cs.span fun c => c ≠ ']' && c ≠ '\x7b'
  match rest with
  | [] => .error .directive
  | ']' :: cs => afterSpan { d with inSpan := true } cs
  | _ :: cs => fieldRest { d with inSpan := !name.isEmpty } cs

def startsTarget (c : Char) : Bool :=
  Text.isAlphanumeric c || c == '-' || c == ':' || c == '_'

def read (cs : List Char) : Except FilterProblem Directive :=
  match cs with
  | [] => .error .directive
  | '[' :: rest => spanRest { threshold := some .trace } rest
  | c :: _ =>
    if !startsTarget c then .error .directive
    else
      let (target, rest) := cs.span fun c => c ≠ '=' && c ≠ '['
      match rest with
      | [] =>
        match Threshold.read? target with
        | some t => .ok { threshold := t }
        | none => .ok { target? := target, threshold := some .trace }
      | '=' :: rest => (level rest).map fun t => { target? := target, threshold := t }
      | _ :: rest => spanRest { target? := target, threshold := some .trace } rest

/-- Whether a directive speaks of events outside of spans. The name of a span and the value of a
field can only be those of a span around the event. -/
def isStatic (d : Directive) : Bool :=
  !d.inSpan && d.field?.all fun test => !test.valued

/-- Whether a directive applies to an event outside of spans. -/
def appliesTo (e : Event) (d : Directive) : Bool :=
  d.isStatic && (d.target?.all fun target => target.isPrefixOf e.target.toList) &&
    d.field?.all fun test => e.hasField test.name

/-- Directives by how closely they describe their events: by their targets first, then by their
fields, of which the later name counts as closer. -/
def order : Directive → Directive → Ordering :=
  compareLex (compareOn fun d => d.target?.map List.length)
    (compareOn fun d => d.field?.map FieldTest.name)

/-- The closer one of two directives, the new one if they are equally close. -/
def closer (best? : Option Directive) (d : Directive) : Option Directive :=
  match best? with
  | none => some d
  | some best => if (best.order d).isLE then some d else some best

end Directive

/-- Directives, written with commas between them. -/
structure Filter where
  directives : List Directive
deriving Repr, DecidableEq

namespace Filter

/-- Reads a filter. Empty parts are passed over, and the first bad part decides. A text without
directives asks for errors only. -/
def read (text : String) : Except FilterProblem Filter := do
  let directives ← ((Text.parts ',' text.toList).filter fun p => !p.isEmpty).mapM Directive.read
  return ⟨if directives.isEmpty then [{ threshold := some .error }] else directives⟩

/-- The directive that decides over an event: of those that apply the closest, of several that are
equally close the last. -/
def decisive? (f : Filter) (e : Event) : Option Directive :=
  (f.directives.filter (·.appliesTo e)).foldl Directive.closer none

def admits (f : Filter) (e : Event) : Bool :=
  match f.decisive? e with
  | none => false
  | some d => d.threshold.admits e.level

end Filter

end TypeGuard.Log

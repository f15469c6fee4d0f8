import TypeGuard.TypeScript.Class

namespace TypeGuard.TypeScript.Parser

variable {src : List Char}

/-- Reports what is wrong with an expression as a pattern. -/
def judge (v : Verdict src) : Parser src Unit := do
  v.faults.forM fun f =>
    if f.cause = .restrictedTarget then reportStrict f.place f.cause else reportFault f
  v.refusal.forM failWith

def expression (g : Rules src) : Parser src (Expr src) := do
  let first ← g .assignment
  if ← is .comma then
    loop () fun _ => do
      if ← eat .comma then
        let _ ← g .assignment
        return .again ()
      else return .done ()
    return .plain first.start .other
  else return first

/-- Expressions that may use `in` as an operator. -/
def fullExpression (g : Rules src) : Parser src (Expr src) :=
  within (fun c => { c with inAllowed := true }) (expression g)

/-- An expression, with the place of the dots if it is spread. -/
def spreadable (g : Rules src) : Parser src (Option (Cursor src) × Expr src) := do
  let start ← here
  if ← eat .ellipsis then return (some start, ← assignment g)
  else return (none, ← assignment g)

def arguments (g : Rules src) : Parser src Unit :=
  within (fun c => { c with colonEnds := false }) do
    let _ ← here
    expect .parenOpen
    loop true fun first => do
      if ← atEnd <||> is .parenClose then return .done ()
      else
        if !first then expect .comma
        if ← pure !first <&&> is .parenClose then return .done ()
        else
          let _ ← spreadable g
          return .again false
    expect .parenClose

def templateExpression (g : Rules src) (tagged : Bool) : Parser src Unit :=
  within (fun c => { c with colonEnds := false }) do
    template tagged do
      let _ ← fullExpression g

def checkAssigned (s : Symbol) (left : Expr src) : Parser src Unit := do
  let strict := (← get).context.strict
  if s == .assign then judge (left.assigned strict)
  else
    if !left.isValidTarget strict then report left.start .badAssignmentTarget
    if left.isRestrictedName then reportStrict left.start .restrictedTarget

/-- The rest of an assignment after its left side, if one comes. -/
def finishAssignment (g : Rules src) (left : Expr src) : Parser src (Expr src) := do
  checkNext
  match (← next).symbol? with
  | some s =>
    if !s.assigns then return left
    else
      checkAssigned s left
      bump
      let _ ← g .assignment
      if s == .assign then
        return { start := left.start, form := .assignment, restricted := left.restricted }
      else return .plain left.start .compound
  | none => return left

end TypeGuard.TypeScript.Parser

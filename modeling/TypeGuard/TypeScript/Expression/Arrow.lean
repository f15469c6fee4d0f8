import TypeGuard.TypeScript.Expression.Basic

namespace TypeGuard.TypeScript.Parser

variable {src : List Char}

inductive ParenItem (src : List Char) where
  /-- Can only be a parameter: a single name or not, with the place of the dots if it takes all the
  rest, and with names that strict code cannot bind. -/
  | pattern (isName : Bool) (dots : Option (Cursor src)) (restricted : List (Cursor src))
  /-- An expression, with the place of the dots if it is spread. -/
  | expression (dots : Option (Cursor src)) (e : Expr src)

def ParenItem.isName : ParenItem src → Bool
  | pattern isName _ _ => isName
  | expression _ e => e.form.isName

def ParenItem.isPattern : ParenItem src → Bool
  | pattern _ _ _ => true
  | expression _ _ => false

def ParenItem.dots : ParenItem src → Option (Cursor src)
  | pattern _ dots _ => dots
  | expression dots _ => dots

structure Parameter (src : List Char) where
  verdict : Verdict src
  /-- Names that it binds and that strict code cannot bind. -/
  restricted : List (Cursor src) := []
  isSimple : Bool

/-- An item as the last parameter, with the place of a comma after it. -/
def ParenItem.asLast (comma : Option (Cursor src)) : ParenItem src → Parameter src
  | pattern isName dots restricted =>
    { verdict := if dots.isSome then .wrongAt comma .commaAfterRest else {}
      restricted
      isSimple := isName }
  | expression dots e =>
    let rest : Verdict src := match dots with
      | some dots => (e.restInitializer dots).andThen (.wrongAt comma .commaAfterRest)
      | none => {}
    { verdict := rest.andThen e.asBinding
      restricted := e.restricted
      isSimple := dots.isNone && e.form.isName }

/-- An item as one of the parameters in front of the last one. A rest parameter is none of these,
and left out. -/
def ParenItem.asInner (item : ParenItem src) : Parameter src :=
  match item.dots with
  | some dots => { verdict := .wrong dots .restNotLast, isSimple := true }
  | none => item.asLast none

/-- Takes items for parameters, with the place of a comma after them. The result says whether all
parameters are plain names. -/
def asParameters (items : List (ParenItem src)) (comma : Option (Cursor src)) :
    Parser src Bool := do
  let params := items.dropLast.map ParenItem.asInner ++
    items.getLast?.toList.map (ParenItem.asLast comma)
  params.forM fun p => judge p.verdict
  if (← get).context.strict then
    params.forM fun p => p.restricted.forM fun place => reportStrict place .strictBinding
  return params.all Parameter.isSimple

def branches (g : Rules src) : Parser src Unit := do
  let _ ← within (fun c => { c with inBranch := true, colonEnds := true, inAllowed := true })
    (g .assignment)
  expect .colon
  let _ ← within (fun c => { c with inBranch := true, colonEnds := false }) (g .assignment)

/-- The operators of an expression that has at least one operand. An operand that cannot be read
may be missing in front of an operator. -/
def binary (g : Rules src) : Parser src (Expr src) := do
  let left ← recover (g .unary) fun f => do
    let t ← require
    let operator := t.isOperator || t.isWord "instanceof" ||
      (t.isWord "in" && (← get).context.inAllowed)
    if operator then
      report t.start .expectedExpression
      return .missing f.place 0
    else throw f
  if left.isArrow then return left
  else g (.operators left 0)

/-- The expression of an item that begins with a name: what could be a parameter with a question
mark is not read as a conditional expression. -/
def namedItem (g : Rules src) : Parser src (Option (Cursor src) × Expr src) := do
  let start ← here
  if ← eat .ellipsis then
    return (some start, ← within (fun c => { c with inAllowed := true }) (binary g))
  else
    let e ← binary g
    return (none, ← finishAssignment g e)

/-- After an item: a question mark that makes it an optional parameter or the test of a conditional
expression. -/
def itemQuestion (g : Rules src) (dots : Option (Cursor src)) (e : Expr src) :
    Parser src (Bool × Expr src) := do
  if ← is .question then
    if ← peekIs .comma <||> peekIs .colon <||> peekIs .parenClose <||> peekIs .assign then
      bump
      checkNext
      if dots.isSome then
        report (← get).lastStart (.rule "A rest parameter cannot be optional")
      if e.form.isName then return (true, e)
      else failAt (dots.getD e.start) .optionalPattern
    else if dots.isNone then
      bump
      branches g
      return (false, .plain e.start .conditional)
    else return (false, e)
  else return (false, e)

def parenItem (g : Rules src) : Parser src (ParenItem src) := do
  let start ← here
  setArrowStart (some start.offset)
  let modified ← parameterModifier
  let _ ← here
  let isNamed ← atName <||> (is .ellipsis <&&> (afterNext >>= isNameToken))
  let (dots, e) ← if isNamed then namedItem g else spreadable g
  let (isOptional, e) ← itemQuestion g dots e
  let item ← do
    if ← pure isOptional <||> is .colon then
      judge e.asBinding
      let annotated := dots.isSome || e.form.isName || e.form == .object || e.form == .array
      if annotated then
        let _ ← annotation? g
      let initialized ← eat .assign
      if initialized then
        let _ ← g .assignment
      let isName := !initialized && dots.isNone && e.form.isName
      pure (ParenItem.pattern isName (if initialized then none else dots) e.restricted)
    else pure (ParenItem.expression dots e)
  if modified then report start .parameterProperty
  return item

/-- What stands between parentheses: items, and the place of a comma after the last one. -/
structure ParenItems (src : List Char) where
  items : List (ParenItem src) := []
  comma : Option (Cursor src) := none

/-- Items between parentheses. An arrow after an item makes an arrow function of the first one, if
that is a name. -/
def parenItems (g : Rules src) : Parser src (ParenItems src) := do
  expect .parenOpen
  loop ({} : ParenItems src) fun found => do
    if ← atEnd <||> is .parenClose then
      expect .parenClose
      return .done found
    else
      let start ← here
      let items := found.items ++ [← parenItem g]
      let isArrow ← eat .arrow <&&> pure (items.head?.any ParenItem.isName)
      if isArrow then
        let simple ← asParameters items none
        let _ ← arrowBody g false simple
      let items :=
        if isArrow then items ++ [.expression none (.plain start .arrow)] else items
      if !(← is .parenClose) then
        expect .comma
        if ← is .parenClose then return .again { items, comma := some (← get).lastStart }
      return .again { found with items }

/-- The result type of an arrow function in a branch, where a colon may also end the branch. -/
def branchArrow? (g : Rules src) (found : ParenItems src) (async : Bool) : Parser src Bool := do
  let c := (← get).context
  if ← pure c.inBranch <&&> is .colon then
    let arrow ← attempt do
      resultType g .colon
      expect .arrow
      let simple ← asParameters found.items found.comma
      let _ ← arrowBody g async simple
      if ← pure c.colonEnds <&&> notM (is .colon) then unexpected "fail"
      return some ()
    return arrow.isSome
  else return false

/-- The result type of an arrow function, if one comes and an arrow after it. -/
def arrowResult? (g : Rules src) : Parser src Bool := do
  if ← pure !(← get).context.colonEnds <&&> is .colon then
    let found ← attempt do
      resultType g .colon
      if !(← is .arrow) then unexpected "=>"
      return some ()
    return found.isSome
  else return false

/-- The value of parentheses that no arrow follows, and that contain no item that can only be a
parameter. -/
def parenthesized (start : Cursor src) (items : List (ParenItem src)) : Parser src (Expr src) :=
  match items with
  | [] => failAt start .emptyParentheses
  | [.expression none e] => return .parenthesized start e
  | items => do
    items.forM fun
      | .expression (some _) e => failAt e.start .spreadInParentheses
      | _ => pure ()
    let first := match items with
      | .expression _ e :: _ => e.start
      | _ => start
    return .parenthesized start (.plain first .other)

/-- Reports the properties `a = 1` of object literals between parentheses, which have not turned
out to be patterns. -/
def checkShorthands (items : List (ParenItem src)) : Parser src Unit :=
  items.forM fun
    | .expression _ e => e.shorthands.forM fun place => report place .shorthandInitializer
    | .pattern _ _ _ => pure ()

/-- The rest of an arrow function after its parameters in parentheses, which began at `start`. An
operator after its block is an error that does not stop the parser. -/
def arrowTail (g : Rules src) (start : Cursor src) (canBeArrow async : Bool)
    (found : ParenItems src) : Parser src (Expr src) := do
  if ← startsLine then failAt start .breakBeforeArrow
  if !canBeArrow then failAt start .misplacedArrow
  expect .arrow
  let simple ← asParameters found.items found.comma
  let isBlock ← arrowBody g async simple
  let e : Expr src := .plain start .arrow
  if ← pure isBlock <&&> (return (← next).isOperator && !(← next).isSymbol .slash) then
    report (← spot) .expectedSemicolon
    let e ← g (.operators e 0)
    if !(← atSemicolon) then report (← spot) .expectedSemicolon
    return e
  else return e

/-- Parentheses with an arrow function or an expression; `async` is the place of that word in
front of them. -/
def parenthesizedOrArrow (g : Rules src) (canBeArrow : Bool) (async : Option (Cursor src)) :
    Parser src (Expr src) := do
  let start ← match async with
    | some place => pure place
    | none => here
  let found ← within (fun c => { c with colonEnds := false, inAllowed := true }) (parenItems g)
  if ← branchArrow? g found async.isSome then return .plain start .arrow
  let typed ← arrowResult? g
  if ← pure (found.items.any ParenItem.isPattern || typed) <||> is .arrow then
    arrowTail g start canBeArrow async.isSome found
  else
    checkShorthands found.items
    if async.isSome then return .plain start .call
    else parenthesized start found.items

def namedArrow (g : Rules src) (start : Cursor src) (async : Bool) : Parser src (Expr src) := do
  expect .arrow
  let _ ← arrowBody g async true
  return .plain start .arrow

def genericAsyncArrow? (g : Rules src) (start : Cursor src) :
    Parser src (Option (Expr src)) := do
  if !(← is .less) then return none
  let head ← attempt do
    let _ ← typeParameters g ⟨false, false⟩
    expect .parenOpen
    let params ← parameters g
    expect .parenClose
    resultType? g
    expect .arrow
    return some params
  match head with
  | some params =>
    let _ ← within (fun c => { c with inAsync := true, inGenerator := false })
      (arrowBody g true (params.all Binding.isSimple))
    return some (.plain start .arrow)
  | none => return none

end TypeGuard.TypeScript.Parser

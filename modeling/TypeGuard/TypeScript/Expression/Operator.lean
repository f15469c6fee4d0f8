import TypeGuard.TypeScript.Expression.Operand

namespace TypeGuard.TypeScript.Parser

variable {src : List Char}

def checkUpdated (e : Expr src) : Parser src Unit := do
  judge (e.changed (← get).context.strict false)

def checkDeleted (e : Expr src) : Parser src Unit := do
  if e.form.isName then reportStrict e.start .deleteName
  match e.form.bare with
  | .member | .chainMember => pure ()
  | _ => reportFault { place := e.core, cause := .deleteOperand, back := e.back }

/-- An operator in front of an operand. An operand that cannot be read is reported, and taken to be
missing one byte in front of where it should be. -/
def signedExpression (g : Rules src) (start : Cursor src) : Parser src (Expr src) := do
  let isDelete ← isWord "delete"
  bump
  let place ← here
  let operand ← recover (g .unary) fun f => do
    reportFault f
    return .missing place 1
  if isDelete then checkDeleted operand
  return .plain start .signed

/-- A wait for a value, after its word at `start`. Where no value can follow, the word is a name. -/
def awaited (g : Rules src) (start : Cursor src) : Parser src (Expr src) := do
  if ← is .star then
    fail (.rule ("await* has been removed from the async functions proposal. " ++
      "Use Promise.all() instead."))
  let c := (← get).context
  let isName ← pure !c.inAsync <&&>
    (isOneOf [.parenClose, .bracketClose] <||> atSemicolon <||> is .comma)
  if isName then
    report start .reservedAwait
    return .named start "await"
  else
    if c.inFunction && !c.inAsync then
      report (← spot) (.rule "await isn't allowed in non-async function")
    if c.inParameters && !c.inFunction then
      report start (.rule "'await' cannot be used as a parameter within async function")
    let _ ← g .unary
    return .plain start .await

def awaitExpression (g : Rules src) : Parser src (Expr src) := do
  let start ← here
  bump
  awaited g start

def typeAssertion (g : Rules src) : Parser src (Expr src) := do
  let start ← here
  expect .less
  if ← eatWord "const" then
    expect .greater
    let _ ← g .unary
    return .plain start .other
  else
    let _ ← typeHere g
    expect .greater
    return .wrapped start .other (← g .unary)

/-- An operand with the operators around it that bind tightest. -/
def unary (g : Rules src) : Parser src (Expr src) := do
  let start ← here
  if ← is .less then typeAssertion g
  else if ← isOneOf [.increment, .decrement] then
    bump
    let e ← g .unary
    checkUpdated e
    return .plain start .update
  else if ← isOneOfWords ["delete", "void", "typeof"] <||> isOneOf [.plus, .minus, .tilde, .bang] then
    signedExpression g start
  else if ← isWord "await" then awaitExpression g
  else
    let e ← g .leftHandSide
    if e.isArrow then return e
    else if ← notM startsLine <&&> isOneOf [.increment, .decrement] then
      checkUpdated e
      bump
      return .plain start .update
    else return e

def wordPrecedence : Nat := 7

inductive Operator where
  | symbol (s : Symbol)
  /-- The words `in` and `instanceof`. -/
  | word
deriving DecidableEq

def Operator.form (left : Expr src) : Operator → Form
  | symbol s => .binary s (left.form matches .binary .coalesce _)
  | word => .wordOperator

/-- The binary operator that comes next, with its precedence. -/
def binaryOperator? : Parser src (Option (Operator × Nat)) := do
  let t ← next
  if t.isWord "instanceof" || (t.isWord "in" && (← get).context.inAllowed) then
    return some (.word, wordPrecedence)
  else match t.symbol? with
    | some s => return s.precedence?.map fun p => (.symbol s, p)
    | none => return none

/-- Whether an expression joins conditions. -/
def isLogical (e : Expr src) : Bool :=
  match e.form with
  | .binary .andAnd _ | .binary .orOr _ => true
  | _ => false

/-- Checks that no condition is an operand of an alternative to null without parentheses. -/
def checkOperands (op : Operator) (left right : Expr src) : Parser src Unit := do
  if op = .symbol .coalesce then
    if isLogical left then report left.start .mixedNullish
    if isLogical right then report right.start .mixedNullish

def checkCondition (e : Expr src) : Parser src Unit :=
  match e.form with
  | .binary .andAnd true | .binary .orOr true => report e.start .mixedNullish
  | _ => pure ()

/-- Type assertions after an operand, in an expression whose operators bind tighter than
`least`. -/
def assertions (g : Rules src) (left : Expr src) (least : Nat) : Parser src (Expr src) :=
  loop left fun left => do
    let asserted : Parser src Unit :=
      within (fun c => { c with inType := true }) do
        bump
        let _ ← g .type
    if ← startsLine then return .done left
    else if ← pure (decide (least < wordPrecedence)) <&&> isWord "as" then
      if ← peekIsWord "const" then
        bump
        checkNext
        bump
        checkNext
        return .again (.plain left.start .other)
      else
        asserted
        return .again (.wrapped left.start .asserted left)
    else if ← isWord "satisfies" then
      asserted
      return .again (.wrapped left.start .other left)
    else return .done left

/-- One operation with a left operand, if its operator binds tighter than `least`. -/
def operation? (g : Rules src) (left : Expr src) (least : Nat) :
    Parser src (Option (Expr src)) := do
  checkNext
  match ← binaryOperator? with
  | none => return none
  | some (op, precedence) =>
    if precedence ≤ least then return none
    else
      bump
      let isPower := decide (op = .symbol .power)
      if isPower && (left.form == .signed || left.form == .await) then
        fail .unaryBeforePower
      let first ← g .unary
      let right ← g (.operators first (if isPower then precedence - 1 else precedence))
      checkOperands op left right
      return some (.plain left.start (op.form left))

def operators (g : Rules src) (left : Expr src) (least : Nat) : Parser src (Expr src) :=
  loop left fun left => do
    let left ← assertions g left least
    match ← operation? g left least with
    | none =>
      checkCondition left
      return .done left
    | some e =>
      checkCondition e
      return .again e

/-- A conditional expression, or only its condition. -/
def conditional (g : Rules src) : Parser src (Expr src) := do
  let start ← here
  let test ← binary g
  if test.isArrow then return test
  else if ← eat .question then
    branches g
    return .plain start .conditional
  else return test

/-- Keywords that a value given out by a generator can begin with. -/
def givenWords : List String :=
  ["await", "function", "throw", "new", "this", "super", "class", "import", "yield", "typeof",
    "void", "delete", "null", "true", "false"]

def startsGiven (t : Token src) : Bool :=
  match t.lexeme with
  | .symbol s =>
    [Symbol.bang, .parenOpen, .braceOpen, .bracketOpen, .increment, .decrement, .tilde, .backquote,
      .plus, .minus].contains s
  | .word name => !isKeyword name || givenWords.contains name
  | .name _ | .string _ _ | .number _ _ | .bigint _ _ => true
  | _ => false

def yieldExpression (g : Rules src) : Parser src (Expr src) := do
  let start ← here
  bump
  let c := (← get).context
  if c.inParameters && !c.inFunction then
    failAt (← get).lastStart (.rule "'yield' cannot be used as a parameter within generator")
  let given ← notM atSemicolon <&&> (isOneOf [.star, .slash, .slashAssign] <||> do
    checkNext
    return startsGiven (← next))
  if given then
    let _ ← eat .star
    let _ ← g .assignment
  return .plain start .other

/-- An assignment, or anything that binds tighter, without type parameters in front. -/
def plainAssignment (g : Rules src) : Parser src (Expr src) := do
  if ← pure (← get).context.inGenerator <&&> isWord "yield" then yieldExpression g
  else
    let t ← require
    let start ← here
    let mayBeArrow : Bool := match t.lexeme with
      | .symbol s => s == .parenOpen
      | .word name => !isKeyword name || name == "yield"
      | .name _ => true
      | _ => false
    setArrowStart (if mayBeArrow then some start.offset else none)
    let e ← conditional g
    if e.isArrow then return e
    else match e.form with
      | .conditional | .binary _ _ | .wordOperator | .signed | .update => return e
      | _ => finishAssignment g e

def assignmentExpression (g : Rules src) : Parser src (Expr src) := do
  let generic ← do
    if ← is .less <&&> (return (← afterNext).isAnyWord) then
      attempt <| within (fun c => { c with colonEnds := false }) do
        let _ ← typeParameters g .function
        let e ← plainAssignment g
        if e.isArrow then return some e
        else unexpected "("
    else pure none
  match generic with
  | some e => return e
  | none => plainAssignment g

end TypeGuard.TypeScript.Parser

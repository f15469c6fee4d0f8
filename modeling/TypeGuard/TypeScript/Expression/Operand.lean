import TypeGuard.TypeScript.Expression.Literal

namespace TypeGuard.TypeScript.Parser

variable {src : List Char}

def asyncExpression? (g : Rules src) (canBeArrow : Bool) : Parser src (Option (Expr src)) := do
  let start ← here
  if ← peekIsWordOnLine "function" then
    bump
    functionExpression g true
    return some (.plain start .function)
  else
    let generic ← do
      if ← pure canBeArrow <&&> peekIs .less then
        attempt do
          bump
          genericAsyncArrow? g start
      else pure none
    let t ← afterNext
    if generic.isSome then return generic
    else if canBeArrow && t.isSymbol .parenOpen && !t.startsLine then
      bump
      return some (← parenthesizedOrArrow g canBeArrow (some start))
    else return none

/-- Words that strict code does not want as the names of variables. -/
def isUnwantedVariable (name : String) : Bool :=
  isStrictlyReserved name || name == "let" || name == "static" || name == "yield"

/-- After `async`, a name on the same line: the parameter of an arrow function, unless it turns out
to begin a type assertion. In the head of a loop `of` is no parameter. -/
def asyncNamed (g : Rules src) (start : Cursor src) (async : Expr src) : Parser src (Expr src) := do
  let c := (← get).context
  let isLoop ← pure c.inLoopHead <&&> isWord "of" <&&> notM (peekIs .arrow)
  if isLoop then
    if !c.inAwaitHead then
      report (← get).lastStart
        (.rule "The left-hand side of a `for...of` statement may not be `async`")
    return async
  else
    let (_, param) ← bindingName
    if ← pure (param == "as") <&&> notM (is .arrow) then
      let _ ← typeHere g
      return .wrapped start .asserted async
    else namedArrow g start true

/-- A name, or an arrow function that begins with one. -/
def nameOrArrow (g : Rules src) (canBeArrow : Bool) : Parser src (Expr src) := do
  let start ← here
  let (_, name) ← identifier (!(← get).context.inGenerator)
  if isUnwantedVariable name then reportStrict start (.strictName name)
  let e : Expr src := .named start name
  if ← pure (canBeArrow && name == "async") <&&> notM startsLine <&&> atName then
    asyncNamed g start e
  else if ← pure canBeArrow <&&> notM startsLine <&&> is .arrow then
    if (← get).context.strict && isRestricted name then reportStrict start .strictBinding
    namedArrow g start false
  else return e

/-- An operand without anything after it. -/
def primary (g : Rules src) : Parser src (Expr src) := do
  let _ ← next
  let start ← here
  let canBeArrow := (← get).arrowStart == some start.offset
  match (← next).lexeme with
  | .symbol .bracketOpen => arrayLiteral g
  | .symbol .braceOpen => objectLiteral g
  | .symbol .parenOpen => parenthesizedOrArrow g canBeArrow none
  | .symbol .backquote =>
    templateExpression g false
    return .plain start .template
  | .symbol .slash | .symbol .slashAssign => regExpLiteral
  | .symbol .hash =>
    bump
    let _ ← anyWord
    return .plain start .other
  | .string _ raw =>
    bump
    return .plain start (.string raw)
  | .number _ _ | .bigint _ _ =>
    bump
    return .plain start .literal
  | .word "null" | .word "true" | .word "false" =>
    bump
    return .plain start .literal
  | .word "this" =>
    bump
    return .plain start .other
  | .word "function" =>
    functionExpression g false
    return .plain start .function
  | .word "class" =>
    classExpression g
    return .plain start .class_
  | .word "async" =>
    match ← asyncExpression? g canBeArrow with
    | some e => return e
    | none => nameOrArrow g canBeArrow
  | .word "let" | .word "await" => nameOrArrow g canBeArrow
  | _ =>
    if ← atName then nameOrArrow g canBeArrow
    else fail .expectedExpression

/-- Words that begin an expression without being names. -/
def startingWords : List String :=
  ["this", "super", "null", "true", "false", "function", "class", "new", "delete", "typeof", "void",
    "await", "yield"]

def startingSymbols : List Symbol :=
  [.parenOpen, .bracketOpen, .braceOpen, .backquote, .plus, .minus, .bang, .tilde, .increment,
    .decrement, .hash]

def atExpression : Parser src Bool := do
  let t ← next
  match t.lexeme with
  | .symbol s => return startingSymbols.contains s
  | .word "import" => peekIs .parenOpen <||> peekIs .less <||> peekIs .dot
  | .word name => if startingWords.contains name then return true else isNameToken t
  | .name _ | .string _ _ | .number _ _ | .bigint _ _ => return true
  | _ => return false

/-- Whether a token shows that the angle brackets in front of it are operators, or belong to a call
or a template. -/
def refusesTypeArguments (t : Token src) : Bool :=
  match t.symbol? with
  | some s =>
    s.chars.head? == some '<' || s.chars.head? == some '>' ||
      [Symbol.plus, .minus, .parenOpen, .backquote].contains s
  | none => false

/-- Type arguments of an expression that is not called. What follows has to show that the angle
brackets are no operators. -/
def instantiation? (g : Rules src) : Parser src Bool := do
  let found ← attempt do
    typeArguments g
    let t ← next
    if refusesTypeArguments t then return none
    else if t.startsLine || t.isOperator then return some ()
    else return if ← atExpression then none else some ()
  return found.isSome

def instantiated (g : Rules src) (e : Expr src) : Parser src (Expr src) := do
  if ← is .less <&&> instantiation? g then return .wrapped e.start .instantiation e
  else return e

def memberOf (object : Expr src) (isOptional : Bool) : Expr src :=
  if isOptional || object.form.isChain then .plain object.start .chainMember
  else if object.form == .super then .target object.start .superMember
  else .target object.start .member

def callOf (callee : Expr src) (isOptional : Bool) : Expr src :=
  .plain callee.start (if isOptional || callee.form.isChain then .chainCall else .call)

/-- Whether an expression is a value, which the words `super` and `import` are not by themselves. -/
def isValue (e : Expr src) : Bool :=
  e.form != .super && e.form != .import_

/-- A template after its tag, which must not be a chain that can be cut short. -/
def taggedTemplate (g : Rules src) (tag : Expr src) : Parser src (Expr src) := do
  templateExpression g true
  if tag.form == .chainMember || tag.form == .chainCall then report tag.start .chainTagged
  return .plain tag.start .other

def typedCall? (g : Rules src) (object : Expr src) (calls : Bool) :
    Parser src (Option (Expr src)) :=
  within (fun c => { c with anglesWhole := true }) <| attempt do
    let asyncArrow ← do
      if calls && object.form == .name "async" then genericAsyncArrow? g object.start
      else pure none
    if asyncArrow.isSome then return asyncArrow
    else
      typeArguments g
      if ← pure calls <&&> is .parenOpen then
        arguments g
        return some (callOf object false)
      else if ← is .backquote then return some (← taggedTemplate g object)
      else unexpected "( or `"

/-- What is wrong with a superclass that is not used as one; where there are no `calls`, it looks
like a superclass that is called. -/
def superCause (calls : Bool) : Cause :=
  if calls then .invalidSuper else .rule "Invalid `super()`"

/-- Checks that a member of a superclass is asked for in a way that it can be. -/
def checkSuper (object : Expr src) (calls isOptional isPrivate : Bool) : Parser src Unit := do
  if object.form == .super then
    if isOptional then fail (superCause calls)
    if isPrivate then fail (.rule "Index super with private name is not allowed")

def finishMember (g : Rules src) (object : Expr src) (calls isOptional isPrivate : Bool) :
    Parser src (Expr src) := do
  let typed ← is .less <&&> instantiation? g
  checkSuper object calls isOptional isPrivate
  let e := memberOf object isOptional
  return if typed then .wrapped e.start .instantiation e else e

def nonNull? (object : Expr src) : Parser src (Option (Expr src)) := do
  if ← notM startsLine <&&> is .bang then
    noOperand
    bump
    if object.form == .super then
      fail (.rule "Typescript non-null assertion operator is not allowed with 'super'")
    return some (.wrapped object.start (.nonNull object.form) object)
  else return none

def dottedMember (g : Rules src) (object : Expr src) (calls isOptional : Bool) :
    Parser src (Expr src) := do
  let isPrivate ← is .hash
  if isPrivate then
    let _ ← privateName
  else
    let _ ← anyWord
  finishMember g object calls isOptional isPrivate

/-- One thing that follows an operand, or nothing. -/
def subscript (g : Rules src) (object : Expr src) (calls indices : Bool) :
    Parser src (Round (Expr src) (Expr src)) := do
  checkNext
  let _ ← next
  if let some e ← nonNull? object then return .again e
  let typed ← do
    if ← pure (isValue object) <&&> is .less then typedCall? g object calls else pure none
  if let some e := typed then
    if e.isArrow then return .done e else return .again e
  if ← pure (isValue object) <&&> is .less <&&> instantiation? g then
    return .again (.wrapped object.start .instantiation object)
  let isOptional ← is .question <&&> peekIs .dot
  if isOptional then
    let _ ← here
    bump
  if ← pure (indices && isOptional) <&&> is .dot <&&> peekIs .bracketOpen then bump
  if ← pure indices <&&> eat .bracketOpen then
    let _ ← fullExpression g
    expect .bracketClose
    return .again (← finishMember g object calls isOptional false)
  let optionalCall ← pure isOptional <&&> is .dot <&&> (peekIs .parenOpen <||> peekIs .less)
  if optionalCall then bump
  if ← pure optionalCall <||> (pure calls <&&> is .parenOpen) then
    if ← is .less then typeArguments g
    arguments g
    if isOptional && !isValue object then fail (.rule "Super call cannot be optional")
    return .again (callOf object isOptional)
  if ← eat .dot then return .again (← dottedMember g object calls isOptional)
  match object.form with
  | .super => fail (superCause calls)
  | .import_ => fail (.rule "Import is not allowed here")
  | _ =>
    if ← is .backquote then return .again (← taggedTemplate g object)
    else return .done object

def subscripts (g : Rules src) (object : Expr src) (calls indices : Bool) :
    Parser src (Expr src) :=
  loop object fun object => subscript g object calls indices

def importExpression (g : Rules src) (start : Cursor src) (calls : Bool) :
    Parser src (Expr src) := do
  if ← eat .dot then
    let (_, name) ← anyWord
    if name == "meta" then
      report start (.rule "'import.meta' cannot be used outside of module code.")
      g (.subscripts (.plain start .other) calls true)
    else unexpected "meta"
  else if ← is .parenOpen then g (.subscripts (.plain start .import_) calls true)
  else unexpected "`.` or `(`"

/-- The target of a call of `new`, after the dot. -/
def newTarget (g : Rules src) (start : Cursor src) : Parser src (Expr src) := do
  if ← eatWord "target" then
    let c := (← get).context
    if !c.hasNewTarget && !c.inParameters && !c.inClass then report start .newTarget
    g (.subscripts (.plain start .other) false true)
  else unexpected "target"

def newExpression (g : Rules src) (start : Cursor src) : Parser src (Expr src) := do
  if ← eat .dot then newTarget g start
  else
    let callee ← g .member
    if callee.isArrow then return callee
    if callee.form == .chainMember || callee.form == .chainCall then
      failAt callee.start .chainCreated
    if ← is .less then
      let _ ← attempt do
        innerTypeArguments g
        if ← is .parenOpen then return some ()
        else return none
    if ← is .parenOpen then
      arguments g
      g (.subscripts (.plain start .created) false true)
    else return .plain start .createdWithoutArguments

/-- Members of an operand, or `new` with what it creates. -/
def memberExpression (g : Rules src) : Parser src (Expr src) :=
  within (fun c => { c with anglesWhole := true }) do
    let start ← here
    if ← eatWord "new" then newExpression g start
    else if ← eatWord "super" then g (.subscripts (.plain start .super) false true)
    else if ← eatWord "import" then importExpression g start false
    else
      let object ← primary g
      if object.isArrow then return object
      g (.subscripts (← instantiated g object) false true)

def leftHandSide (g : Rules src) : Parser src (Expr src) := do
  let start ← here
  if ← eatWord "super" then g (.subscripts (.plain start .super) true true)
  else if ← eatWord "import" then importExpression g start true
  else
    let callee ← g .member
    if callee.isArrow then return callee
    let typed ← do
      if ← is .less then
        attempt do
          typeArguments g
          if ← is .parenOpen then return some ()
          else return none
      else pure none
    if callee.form == .createdWithoutArguments then
      if typed.isSome then expect .parenOpen
      return callee
    else if ← is .parenOpen then
      arguments g
      g (.subscripts (callOf callee false) true true)
    else
      if typed.isSome then expect .parenOpen
      return callee

end TypeGuard.TypeScript.Parser

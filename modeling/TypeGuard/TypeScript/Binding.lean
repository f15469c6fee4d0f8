import TypeGuard.TypeScript.Name

namespace TypeGuard.TypeScript.Parser

variable {src : List Char}

/-- An expression that may use `in` as an operator. -/
def assignment (g : Rules src) : Parser src (Expr src) :=
  within (fun c => { c with inAllowed := true }) (g .assignment)

/-- The type after a colon that has been read. -/
def typeHere (g : Rules src) : Parser src ParamType :=
  within (fun c => { c with inType := true }) (g .type)

def annotation? (g : Rules src) : Parser src (Option ParamType) := do
  if (← is .colon) then
    within (fun c => { c with inType := true }) do
      bump
      return some (← g .type)
  else return none

/-- Further expressions after commas, which brackets around a key do not allow. -/
def strayKeys (g : Rules src) (start : Cursor src) : Parser src Unit := do
  if (← is .comma) then
    loop () fun _ => do
      if (← eat .comma) then
        let _ ← assignment g
        return .again ()
      else return .done ()
    report start (.rule "A comma expression is not allowed in a computed property name")

def propertyKey (g : Rules src) : Parser src (Key src) := do
  let start ← here
  match (← require).lexeme with
  | .string value _ =>
    bump
    return .string start value
  | .number _ _ | .bigint _ _ =>
    bump
    return .computed start
  | .word word =>
    bump
    return .name start (nameOf word)
  | .name name =>
    bump
    return .name start name
  | .symbol .bracketOpen =>
    bump
    let inner ← here
    let _ ← assignment g
    strayKeys g inner
    expect .bracketClose
    return .computed start
  | _ => unexpected "identifier, string literal, numeric literal or [ for the computed key"

/-- A binding with an optional default value. -/
def bindingElement (g : Rules src) : Parser src (Binding src) := do
  let start ← here
  let b ← g .pattern
  if (← eat .assign) then
    let _ ← assignment g
    if (← get).context.inDeclare then report start .ambientInitializer
    return { b with start, initialized := true }
  else return b

/-- The elements of an array pattern after its bracket; `rest` is the place of a rest element that
was read already. -/
def arrayElements (g : Rules src) : Parser src Unit :=
  loop (none : Option (Cursor src)) fun rest => do
    if ← atEnd <||> is .bracketClose then
      expect .bracketClose
      return .done ()
    else
      if let some place := rest then report place .restElementNotLast
      if (← eat .comma) then return .again rest
      else
        let start ← here
        let isRest ← eat .ellipsis
        if isRest then
          let _ ← g .pattern
        else
          let _ ← bindingElement g
        if !(← is .bracketClose) then
          expect .comma
          if ← pure isRest <&&> is .bracketClose then
            report (← get).lastStart .commaAfterRest
        return .again (if isRest then some start else rest)

/-- A property of an object pattern: whether it takes all the rest, and then whether it is a
name. -/
structure PatternProperty (src : List Char) where
  start : Cursor src
  rest : Option Bool := none

def patternProperty (g : Rules src) : Parser src (PatternProperty src) := do
  let start ← here
  if (← eat .ellipsis) then
    let b ← g .pattern
    return { start, rest := some b.name.isSome }
  let key ← propertyKey g
  if (← eat .colon) then
    let _ ← bindingElement g
  else
    match key with
    | .name place name =>
      if (← eat .assign) then
        let _ ← assignment g
      else if (← get).context.reservesKey name then report place .reservedShorthand
    | _ => unexpected "an identifier"
  return { start }

/-- Properties of an object pattern after its brace, with the place of a comma after the last
one. -/
def patternProperties (g : Rules src) :
    Parser src (List (PatternProperty src) × Option (Cursor src)) :=
  loop (([] : List (PatternProperty src)), (none : Option (Cursor src))) fun (found, comma) => do
    if (← eat .braceClose) then return .done (found.reverse, comma)
    else
      let property ← patternProperty g
      if !(← is .braceClose) then
        expect .comma
        if (← is .braceClose) then
          return .again (property :: found, some (← get).lastStart)
      return .again (property :: found, comma)

/-- Checks that only the last property of an object pattern takes all the rest, as a name and
without a comma after it. -/
def checkProperties (found : List (PatternProperty src)) (comma : Option (Cursor src)) :
    Parser src Unit := do
  found.dropLast.forM fun p => if p.rest.isSome then report p.start .restElementNotLast else pure ()
  if let some last := found.getLast? then
    match last.rest, comma with
    | some true, some place => report place .commaAfterRest
    | some false, _ => failAt last.start .dotsWithoutName
    | _, _ => pure ()

def pattern (g : Rules src) : Parser src (Binding src) := do
  let t ← require
  let optionalMark : Parser src Unit := do
    if (← get).context.inDeclare then
      let _ ← eat .question
  match t.lexeme with
  | .word _ | .name _ =>
    let (start, name) ← bindingName
    return { start, name := some name }
  | .symbol .bracketOpen =>
    bump
    arrayElements g
    optionalMark
    return { start := t.start, name := none }
  | .symbol .braceOpen =>
    within (fun c => { c with colonEnds := false }) do
      bump
      let (found, comma) ← patternProperties g
      checkProperties found comma
      optionalMark
    return { start := t.start, name := none }
  | _ => unexpected "yield, an identifier, [ or \x7b"

/-- A parameter that is not a rest parameter. Its type stands in front of its default value; one
that stands behind it is read, but counts for nothing. -/
def parameter (g : Rules src) : Parser src (Binding src) := do
  let start ← here
  let modified ← parameterModifier
  let b ← bindingElement g
  let isOptional ← eat .question
  if isOptional && b.initialized && !(← get).context.inDeclare then
    failAt (← get).lastStart .optionalPattern
  let type ← annotation? g
  let b ← do
    if b.initialized then
      if type.isSome then
        report b.start (.rule "Type annotations must come before default assignments")
      pure b
    else pure { b with type := type.getD .unknown }
  let b ← do
    if (← eat .assign) then
      if isOptional && !b.initialized then report b.start .optionalInitializer
      let _ ← g .assignment
      if (← get).context.inDeclare then report start .ambientInitializer
      pure { b with initialized := true }
    else pure b
  if modified then report start .parameterProperty
  return b

/-- A rest parameter after its dots, which stand at `start`. -/
def restParameter (g : Rules src) (start : Cursor src) (initializer : Bool) :
    Parser src (Binding src) := do
  let b ← g .pattern
  if initializer then
    if (← eat .assign) then
      let _ ← g .assignment
      report b.start .restInitializer
  let _ ← annotation? g
  if initializer then
    if (← eat .question) then
      report (← get).lastStart (.rule "A rest parameter cannot be optional")
  return { start, name := none, isRest := true }

/-- Parameters up to a closing parenthesis, which stays; `one` reads a parameter that is not a rest
parameter. -/
def parameterList (g : Rules src) (initializers : Bool) (one : Parser src (Binding src)) :
    Parser src (List (Binding src)) :=
  loop (([] : List (Binding src)), (none : Option (Cursor src))) fun (params, rest) => do
    if ← atEnd <||> is .parenClose then return .done params.reverse
    else
      if let some place := rest then report place .restNotLast
      let start ← here
      let isRest ← eat .ellipsis
      let b ← if isRest then restParameter g start initializers else one
      if !(← is .parenClose) then
        expect .comma
        if ← pure isRest <&&> is .parenClose then report (← get).lastStart .commaAfterRest
      return .again (b :: params, if isRest then some start else rest)

def parameters (g : Rules src) : Parser src (List (Binding src)) :=
  parameterList g true (parameter g)

/-- A parameter of a constructor, which may declare a property. -/
def constructorParameter (g : Rules src) : Parser src (Binding src) := do
  let start ← here
  let access ← accessModifier
  let override ← modifier? ["override"]
  let readonly ← modifier? ["readonly"]
  let b ← parameter g
  if (access <|> override <|> readonly).isNone then return b
  else if b.name.isNone && !b.initialized then
    failAt b.start
      (.rule "Typescript parameter property must be an identifier or assignment pattern")
  else return { b with property := some start }

def constructorParameters (g : Rules src) : Parser src (List (Binding src)) :=
  parameterList g false (constructorParameter g)

end TypeGuard.TypeScript.Parser

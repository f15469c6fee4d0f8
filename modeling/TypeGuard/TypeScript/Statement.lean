import TypeGuard.TypeScript.Declaration

namespace TypeGuard.TypeScript.Parser

variable {src : List Char}

def nothing (p : Parser src Unit) : Parser src (Item src) := do
  p
  return .other

def substatement (g : Rules src) : Parser src Unit := do
  let _ ← g (.statement false false)

def loopBody (g : Rules src) : Parser src Unit :=
  within (fun c => { c with breakAllowed := true, continueAllowed := true }) (substatement g)

def condition (g : Rules src) : Parser src Unit := do
  expect .parenOpen
  let _ ← fullExpression g
  expect .parenClose

def jumpStatement (isBreak : Bool) : Parser src Unit := do
  let start ← here
  bump
  let label ← do
    if ← eatSemicolon then pure none
    else
      let (_, name) ← identifier (!(← get).context.inGenerator)
      semicolon
      pure (some name)
  let s ← get
  let known := label.all s.labels.contains
  if isBreak then
    if !known then report start .unknownLabel
    else if !s.context.breakAllowed then report start .misplacedBreak
  else if !s.context.continueAllowed then report start .misplacedContinue
  else if !known then report start .labelAcrossFunction

def returnStatement (g : Rules src) : Parser src Unit := do
  let start ← here
  bump
  if !(← atSemicolon) then
    let _ ← fullExpression g
  semicolon
  if !(← get).context.inFunction then report start .misplacedReturn

def throwStatement (g : Rules src) : Parser src Unit := do
  bump
  if ← startsLine then fail .breakAfterThrow
  let _ ← fullExpression g
  semicolon

def ifStatement (g : Rules src) : Parser src Unit := do
  bump
  condition g
  substatement g
  if ← eatWord "else" then
    let _ ← isWord "if"
    substatement g

def doStatement (g : Rules src) : Parser src Unit := do
  bump
  loopBody g
  expectWord "while"
  condition g
  let _ ← eatSemicolon

def whileStatement (g : Rules src) : Parser src Unit := do
  bump
  condition g
  loopBody g

def caseBody (g : Rules src) : Parser src Unit :=
  loop () fun _ => do
    if ← atEnd <||> isOneOfWords ["case", "default"] <||> is .braceClose then return .done ()
    else
      let _ ← g (.statement true false)
      return .again ()

def switchStatement (g : Rules src) : Parser src Unit := do
  bump
  condition g
  expect .braceOpen
  within (fun c => { c with breakAllowed := true }) do
    loop false fun defaulted => do
      if ← isWord "case" then
        bump
        let _ ← fullExpression g
        expect .colon
        caseBody g
        return .again defaulted
      else if ← isWord "default" then
        bump
        if defaulted then fail .duplicateDefault
        expect .colon
        caseBody g
        return .again true
      else return .done ()
  expect .braceClose

def catchClause? (g : Rules src) : Parser src Bool := do
  let _ ← here
  if ← eatWord "catch" then
    if ← eat .parenOpen then
      let _ ← g .pattern
      let _ ← here
      let _ ← annotation? g
      expect .parenClose
    let _ ← block g
    return true
  else return false

def finallyClause? (g : Rules src) : Parser src Bool := do
  if ← eatWord "finally" then
    let _ ← block g
    return true
  else return false

def tryStatement (g : Rules src) : Parser src Unit := do
  bump
  let _ ← block g
  let place ← here
  let handled ← catchClause? g
  let finished ← finallyClause? g
  if !handled && !finished then report place .expectedSemicolon

/-- A clause of an exception handler without the statements that it belongs to. -/
def strayClause (g : Rules src) : Parser src Unit := do
  report (← spot) .expectedSemicolon
  let tolerated (p : Parser src Bool) : Parser src Unit := recover (do let _ ← p) fun _ => pure ()
  tolerated (catchClause? g)
  tolerated (finallyClause? g)

def withStatement (g : Rules src) : Parser src Unit := do
  let place ← spot
  report place .withUnsupported
  reportStrict place .withStrict
  bump
  condition g
  within (fun c => { c with inFunction := true }) (substatement g)

def canFollowLet (t : Token src) : Bool :=
  match t.lexeme with
  | .symbol .braceOpen | .symbol .bracketOpen => true
  | .word name => !isKeyword name || name == "let" || name == "yield" || name == "await"
  | .name _ => true
  | _ => false

def atVariables : Parser src Bool :=
  isOneOfWords ["const", "var"] <||> (isWord "let" <&&> (return canFollowLet (← afterNext)))

inductive ForHead where
  | range
  | keys
  | elements
deriving DecidableEq

/-- The rest of the head of a loop over the keys or the elements of a collection; `using` is the
place of that word, which a loop over keys cannot have. -/
def collectionHead (g : Rules src) (using_ : Option (Cursor src)) : Parser src ForHead := do
  if ← eatWord "of" then
    let _ ← assignment g
    return .elements
  else
    bump
    if let some place := using_ then
      report place (.rule "Using declaration is not allowed in for-in loop")
    let _ ← fullExpression g
    return .keys

def rangeHead (g : Rules src) : Parser src ForHead := do
  if !(← eat .semicolon) then
    let _ ← fullExpression g
    expect .semicolon
  if !(← is .parenClose) then
    let _ ← fullExpression g
  return .range

/-- Checks the variables of a loop over a collection, of which there is one without a value and
without a type. -/
def checkLoopVariables (found : List (Binding src)) : Parser src Unit := do
  match found with
  | [b] =>
    if ← pure b.initialized <&&> (pure (← get).context.strict <||> isWord "of") then
      report b.start (.rule "Unexpected initializer in for in/of loop")
    if b.annotated then
      report b.start
        (.rule "The left-hand side of a 'for...of' statement cannot use a type annotation")
  | _ => (found.drop 1).forM fun b => report b.start (.rule "Expected one variable binding")

/-- Whether the name of a variable that is disposed of after each round comes next, after what has
been read in the head of a loop. -/
def isUsingHead (e : Expr src) : Parser src Bool :=
  pure (e.form == .name "using") <&&> notM (isWord "of") <&&> (peekIsWord "of" <||> peekIsWord "in")

def expressionHead (g : Rules src) : Parser src ForHead := do
  let start ← here
  let e ← within (fun c => { c with inAllowed := false }) (expression g)
  if ← isUsingHead e then
    let _ ← bindingName
    let _ ← require
    collectionHead g (some start)
  else if ← isOneOfWords ["of", "in"] then
    let isKeys ← isWord "in"
    judge (e.assigned (← get).context.strict)
    if isKeys && (e.form == .object || e.form == .array || e.form == .missing) then
      report e.start
        (.rule "The left-hand side of a 'for...in' statement cannot be a destructuring pattern")
    collectionHead g none
  else
    expect .semicolon
    rangeHead g

def forHead (g : Rules src) : Parser src ForHead := do
  if ← atVariables then
    let found ← declarators g true
    if ← isOneOfWords ["of", "in"] then
      checkLoopVariables found
      collectionHead g none
    else
      expect .semicolon
      rangeHead g
  else if ← eat .semicolon then rangeHead g
  else expressionHead g

/-- A loop with a head. It can wait only for the elements of a collection. -/
def forStatement (g : Rules src) : Parser src Unit := do
  bump
  let place ← here
  let waits ← eatWord "await"
  expect .parenOpen
  let head ← within (fun c => { c with inLoopHead := true, inAwaitHead := waits }) (forHead g)
  expect .parenClose
  loopBody g
  if waits && head != .elements then
    failAt place (.rule "for await syntax is valid only for for-of statement")

def labelledFunction (g : Rules src) : Parser src Unit := do
  let start ← here
  let generator ← functionHead
  let _ ← bindingName
  let _ ← routine g (parameters g) false generator
  if (← get).context.strict then report start (.rule "Function cannot be labelled in strict mode")
  if generator then report start (.rule "Generator or async function cannot be labelled")

def labelled (g : Rules src) (place : Cursor src) (name : String) : Parser src Unit := do
  let same := (← get).labels.filter (· == name)
  modifyLabels (name :: ·)
  same.forM fun _ => report place (.duplicateLabel name)
  within (fun c => { c with breakAllowed := true }) do
    if ← isWord "function" then labelledFunction g else substatement g
  modifyLabels (·.erase name)

/-- A declaration that begins with a name at `start`, which has been read as an expression. -/
def declarationAfter? (g : Rules src) (start : Cursor src) (name : String) :
    Parser src (Option (Item src)) := do
  match name with
  | "declare" => ambientDeclaration? g start
  | "global" =>
    if ← is .braceOpen then
      namespaceBlock g
      return some .other
    else return none
  | _ => wordDeclaration? g name false

/-- An interface after a modifier that it cannot have, which has been read as an expression. -/
def modifiedInterface? (g : Rules src) (start : Cursor src) (name : String) :
    Parser src Bool := do
  if ← pure (["public", "static", "abstract"].contains name) <&&> eatWord "interface" then
    report start .interfaceName
    interface g
    return true
  else return false

def expressionEnd (g : Rules src) (e : Expr src) : Parser src Unit := do
  if !(← eatSemicolon) then
    checkNext
    if ← atOperator then
      report (← spot) .expectedSemicolon
      let _ ← g (.operators e 0)
    else fail .expectedStatementEnd

/-- A statement that begins with the name `name`, which has been read as the expression `e`. -/
def namedStatement (g : Rules src) (e : Expr src) (name : String) : Parser src (Item src) := do
  if ← eat .colon then nothing (labelled g e.start name)
  else if ← pure (name == "interface") <&&> startsLine then
    reportStrict e.start (.strictName name)
    let _ ← eatSemicolon
    return .other
  else
    match ← declarationAfter? g e.start name with
    | some item => return item
    | none =>
      if name == "interface" then reportStrict e.start (.strictName name)
      if ← modifiedInterface? g e.start name then return .other
      else nothing (expressionEnd g e)

def expressionStatement (g : Rules src) : Parser src (Item src) := do
  let start ← here
  let e ← fullExpression g
  match e.form with
  | .name name => namedStatement g e name
  | .string raw =>
    expressionEnd g e
    return if raw == "'use strict'" || raw == "\"use strict\"" then .useStrict start else .other
  | _ => nothing (expressionEnd g e)

/-- A wait for a value where a declaration may stand. What follows the word may still be the
declaration of variables that are disposed of. Otherwise the wait is an expression like any other,
except that nothing but operators follows it at the top of a source. -/
def awaitStatement (g : Rules src) (topLevel : Bool) : Parser src (Item src) := do
  let start ← here
  if topLevel then report (← spot) .topLevelAwait
  let disposes ← peekIsWord "using"
  if !topLevel && !disposes then expressionStatement g
  else
    bump
    if ← pure disposes <&&> usingDeclaration? g start then return .other
    else
      let e ← awaited g start
      let _ ← within (fun c => { c with inAllowed := true }) (g (.operators e 0))
      let _ ← eatSemicolon
      return .other

/-- A function or a class where no declaration is allowed. -/
def checkDeclaration (allowed : Bool) : Parser src Unit := do
  if !allowed then report (← spot) .misplacedDeclaration

def peekIsAnyWordOnLine : Parser src Bool := do
  let t ← afterNext
  return t.isAnyWord && !t.startsLine

/-- A statement that begins with a word which declares a type, unless no word follows it on the same
line. -/
def typeStatement (g : Rules src) (declaration : Parser src Unit) : Parser src (Item src) := do
  if ← peekIsAnyWordOnLine then
    bump
    nothing declaration
  else expressionStatement g

/-- A statement that is neither an import nor an export. -/
def statement (g : Rules src) (declarations topLevel : Bool) : Parser src (Item src) := do
  if ← isWord "const" <&&> peekIsWord "enum" then constantEnumeration g
  else
    let t ← require
    match t.lexeme with
    | .symbol .braceOpen => nothing (do let _ ← block g)
    | .symbol .semicolon => nothing bump
    | .word "await" =>
      if declarations || topLevel then awaitStatement g topLevel else expressionStatement g
    | .word "break" => nothing (jumpStatement true)
    | .word "continue" => nothing (jumpStatement false)
    | .word "debugger" =>
      bump
      nothing semicolon
    | .word "do" => nothing (doStatement g)
    | .word "for" => nothing (forStatement g)
    | .word "function" =>
      checkDeclaration declarations
      functionDeclaration g false
    | .word "class" =>
      checkDeclaration declarations
      classDeclaration g false
    | .word "if" => nothing (ifStatement g)
    | .word "return" => nothing (returnStatement g)
    | .word "switch" => nothing (switchStatement g)
    | .word "throw" => nothing (throwStatement g)
    | .word "catch" | .word "finally" => nothing (strayClause g)
    | .word "try" => nothing (tryStatement g)
    | .word "with" => nothing (withStatement g)
    | .word "while" => nothing (whileStatement g)
    | .word "var" => variableStatement g
    | .word "const" => if declarations then variableStatement g else expressionStatement g
    | .word "let" =>
      if ← pure declarations <&&> (return canFollowLet (← afterNext)) then variableStatement g
      else expressionStatement g
    | .word "using" =>
      if ← pure declarations <&&> usingDeclaration? g t.start then return .other
      else expressionStatement g
    | .word "interface" => typeStatement g (interface g)
    | .word "type" => typeStatement g (typeAlias g)
    | .word "enum" => typeStatement g (enumeration g)
    | .word "async" =>
      if ← peekIsWordOnLine "function" then
        bump
        functionDeclaration g true
      else expressionStatement g
    | _ => expressionStatement g

end TypeGuard.TypeScript.Parser

import TypeGuard.TypeScript.TypeExpr

namespace TypeGuard.TypeScript.Parser

variable {src : List Char}

def openBrace : Parser src (Brace src) := do
  let _ ← here
  let t ← next
  match h : t.lexeme with
  | .symbol .braceOpen =>
    bump
    return ⟨t.start, t.place, t.start_le_place, t.sign, (t.brace h).1⟩
  | _ => fail (.expected Symbol.braceOpen.text (← next).lexeme.shown)

/-- Statements up to a closing brace, which is read, or to the end of the text, which is an error
that does not stop the parser. With `directives` a first statement may make the code strict. The
result is the place of the first statement that looks as if it did. -/
def statements (g : Rules src) (directives topLevel : Bool) :
    Parser src (Option (Cursor src)) := do
  let outer := (← get).context
  let found ← loop ((none : Option (Cursor src)), directives) fun (found, directives) => do
    if ← atStop then
      let shown := (← next).lexeme.shown
      report (← spot) (.expected Symbol.braceClose.text shown)
      return .done found
    else if ← atEnd <||> is .braceClose then return .done found
    else
      match ← g (.statement true topLevel) with
      | .useStrict start =>
        if directives then modifyContext fun c => { c with strict := true }
        return .again (found <|> some start, false)
      | _ => return .again (found, false)
  if !(← atStop) then bump
  modifyContext fun _ => outer
  return found

/-- A block of statements with the place of a directive among them. -/
def directedBlock (g : Rules src) (directives : Bool) :
    Parser src (Brace src × Option (Cursor src)) := do
  let brace ← openBrace
  return (brace, ← statements g directives false)

def block (g : Rules src) : Parser src (Brace src) := do
  let (brace, _) ← directedBlock g false
  return brace

/-- The block of a function, which can contain a directive only if its parameters are `simple`. -/
def functionBlock (g : Rules src) (directives simple : Bool) : Parser src (Brace src) := do
  let (brace, directive) ← directedBlock g directives
  if let some place := directive then
    if !simple then report place .directive
  return brace

/-- The body of a function; `inner` reads it. -/
def bodyWith {α : Type} (async generator arrow : Bool) (inner : Parser src α) : Parser src α := do
  if (← get).context.inDeclare && (← is .braceOpen) then report (← spot) .ambientBody
  let change (c : Context) : Context :=
    { c with
      inAsync := async
      inGenerator := generator
      hasNewTarget := !arrow || c.hasNewTarget
      inFunction := true
      inStaticBlock := false
      breakAllowed := false
      continueAllowed := false }
  unlabelled (within change inner)

/-- The body of a function that is not an arrow function. It may be left out where a statement may
end. -/
def functionBody (g : Rules src) (async generator simple : Bool) :
    Parser src (Option (Brace src)) :=
  bodyWith async generator false do
    if ← notM (is .braceOpen) <&&> eatSemicolon then return none
    else
      return some (← within (fun c => { c with inAllowed := true }) (functionBlock g true simple))

/-- The body of an arrow function: a block or an expression. The result says which. -/
def arrowBody (g : Rules src) (async simple : Bool) : Parser src Bool :=
  bodyWith async false true do
    if (← is .braceOpen) then
      let _ ← functionBlock g false simple
      return true
    else
      let _ ← g .assignment
      return false

/-- Reports the initial values of parameters that belong to no implementation. -/
def checkInitializers (params : List (Binding src)) : Parser src Unit :=
  params.forM fun p => if p.initialized then report p.start .ambientInitializer else pure ()

def routine (g : Rules src) (params : Parser src (List (Binding src))) (async generator : Bool) :
    Parser src (Routine src) :=
  let change (c : Context) : Context :=
    { c with inAsync := async, inGenerator := generator, colonEnds := false, inField := false }
  within change do
    within (fun c => { c with inType := true }) (typeParameters? g .function)
    expect .parenOpen
    let ps ← within (fun c => { c with inParameters := true, inFunction := false }) params
    expect .parenClose
    resultType? g
    let body ← functionBody g async generator (ps.all Binding.isSimple)
    if body.isNone then checkInitializers ps
    return ⟨ps, body⟩

/-- A function after `async`, up to its name. -/
def functionHead : Parser src Bool := do
  let _ ← here
  expectWord "function"
  eat .star

def functionDeclaration (g : Rules src) (async : Bool) : Parser src (Item src) := do
  let generator ← functionHead
  let (_, name) ← bindingName
  return .function name (← routine g (parameters g) async generator)

def defaultFunction (g : Rules src) (async : Bool) : Parser src (Item src) := do
  let generator ← functionHead
  let name ← bindingName?
  return .function ((name.map Prod.snd).getD "default") (← routine g (parameters g) async generator)

def functionExpression (g : Rules src) (async : Bool) : Parser src Unit := do
  let generator ← functionHead
  let _ ← within (fun c => { c with inAsync := async, inGenerator := generator }) bindingName?
  let r ← routine g (parameters g) async generator
  if r.body.isNone then unexpected Symbol.braceOpen.text

end TypeGuard.TypeScript.Parser

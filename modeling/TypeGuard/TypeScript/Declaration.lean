import TypeGuard.TypeScript.Expression.Operator

namespace TypeGuard.TypeScript.Parser

variable {src : List Char}

/-- One variable with its type and its value; in the head of a loop `in` and `of` end it. Patterns
need a value, and so do constants of strict code. -/
def declarator (g : Rules src) (isConst inLoop : Bool) : Parser src (Binding src) := do
  let start ← here
  let b ← g .pattern
  if b.name.isSome then
    let _ ← eat .bang
  let annotated := (← annotation? g).isSome
  let b := { b with annotated }
  if ← pure inLoop <&&> isOneOfWords ["in", "of"] then return b
  else if ← eat .assign then
    let _ ← g .assignment
    return { b with initialized := true }
  else
    let c := (← get).context
    if c.inDeclare then return b
    else if isConst && c.strict then
      report start (.rule "'const' declarations must be initialized")
      return b
    else if b.name.isNone then failAt start .uninitializedPattern
    else return b

/-- Variables with commas between them; a list that ends too early is reported. -/
def declaratorList (g : Rules src) (isConst inLoop : Bool) (change : Context → Context) :
    Parser src (List (Binding src)) :=
  loop ([] : List (Binding src)) fun found => do
    if ← is .semicolon <||> atEnd then
      let s ← get
      report (if found.isEmpty then s.lastStop else s.lastStart) .trailingDeclarator
      return .done found.reverse
    else
      let found := (← within change (declarator g isConst inLoop)) :: found
      if ← eat .comma then return .again found else return .done found.reverse

/-- Skips what cannot follow a declaration up to a place where a statement may end. -/
def skipToSemicolon (g : Rules src) : Parser src Unit := do
  recover (do let _ ← expression g) fun _ => pure ()
  loop () fun _ => do
    if ← eatSemicolon then return .done ()
    else
      bump
      if (← next).lexeme matches .invalid _ then return .done ()
      else return .again ()

/-- Whether the head of a loop goes on as if variables had been declared, though none are. -/
def lacksVariables (g : Rules src) : Parser src Bool := do
  if ← isOneOfWords ["in", "of"] then
    recover (lookahead do
      bump
      let _ ← g .assignment
      expect .parenClose
      return true) fun _ => return false
  else return false

def declarators (g : Rules src) (inLoop : Bool) : Parser src (List (Binding src)) := do
  let _ ← here
  let isVar ← isWord "var"
  let isConst ← isWord "const"
  bump
  if ← pure inLoop <&&> lacksVariables g then
    report (← get).lastStop (.rule "Variable declaration list cannot be empty")
    return []
  else
    let found ← declaratorList g isConst inLoop fun c =>
      { c with inAllowed := c.inAllowed || !isVar || !inLoop }
    if !inLoop then
      if !(← eatSemicolon) then
        report (← spot) .expectedSemicolon
        skipToSemicolon g
    return found

def variableStatement (g : Rules src) : Parser src (Item src) := do
  let _ ← declarators g false
  return .other

/-- Variables that are disposed of, after `using`, which comes next, if a name follows on the same
line; the declaration begins at `start`. -/
def usingDeclaration? (g : Rules src) (start : Cursor src) : Parser src Bool := do
  checkNext
  let t ← afterNext
  if ← pure !t.startsLine <&&> (afterNext >>= isNameToken) then
    bump
    let found ← declaratorList g false false id
    found.forM fun b => do
      if b.name.isNone then report start (.rule "Using declaration only allows identifiers")
      if !b.initialized then report start (.rule "Using declaration requires initializer")
    return true
  else return false

def enumKey (g : Rules src) : Parser src Unit := do
  let t ← require
  match t.lexeme with
  | .string _ _ => bump
  | .number _ _ =>
    bump
    report t.start (.rule "An enum member cannot have a numeric name")
  | .symbol .bracketOpen =>
    bump
    let _ ← expression g
    report t.start (.rule "Computed property names are not allowed in enums")
    expect .bracketClose
  | _ =>
    let _ ← anyWord

/-- A member of an enumeration with the comma after it. The result says whether another one may
follow. A token that is neither a value nor a comma is taken for one. -/
def enumMember (g : Rules src) : Parser src Bool := do
  let _ ← here
  enumKey g
  if ← eat .assign then
    let _ ← g .assignment
    if ← eat .comma then return true
    else if ← is .braceClose then return false
    else
      report (← spot) (.expected Symbol.comma.text (← next).lexeme.shown)
      return true
  else if ← eat .comma then return true
  else if ← is .braceClose then return false
  else
    let place ← here
    bump
    add { place, cause := .expectedSemicolon }
    return true

def enumeration (g : Rules src) : Parser src Unit := do
  let _ ← anyWord
  expect .braceOpen
  loop () fun _ => do
    if ← is .braceClose then return .done ()
    else if ← enumMember g then return .again ()
    else return .done ()
  expect .braceClose

def skipExtends : Parser src Unit := do
  if ← isWord "extends" then
    report (← spot) .secondExtends
    loop () fun _ => do
      if ← atEnd <||> is .braceOpen then return .done ()
      else
        bump
        return .again ()

def interface (g : Rules src) : Parser src Unit := do
  let (place, name) ← anyWord
  if isTypeName name then report place .interfaceName
  typeParameters? g .type
  if ← eatWord "extends" then
    let _ ← heritage g
  skipExtends
  let _ ← here
  within (fun c => { c with inType := true }) (objectType g)

def typeAlias (g : Rules src) : Parser src Unit := do
  let _ ← anyWord
  typeParameters? g .type
  typeAfter g .assign
  semicolon

def namespaceBlock (g : Rules src) : Parser src Unit := do
  let _ ← here
  expect .braceOpen
  let _ ← statements g false true

def namespaceTail (g : Rules src) : Parser src Unit := do
  loop () fun _ => do
    let _ ← anyWord
    if ← eat .dot then return .again () else return .done ()
  namespaceBlock g

/-- A module named by a string, or the global scope. -/
def ambientModule (g : Rules src) : Parser src Unit := do
  if ← isWord "global" then bump
  else
    match (← require).lexeme with
    | .string _ _ => bump
    | _ => unexpected "global or a string literal"
  if ← is .braceOpen then namespaceBlock g
  else semicolon

/-- A declaration that begins with the word `name`, if it is one; with `pending` the word itself
still comes next. -/
def wordDeclaration? (g : Rules src) (name : String) (pending : Bool) :
    Parser src (Option (Item src)) := do
  let skip : Parser src Unit := if pending then bump else pure ()
  match name with
  | "abstract" =>
    if ← pure pending <||> (isWord "class" <&&> notM startsLine) then
      skip
      return some (← classDeclaration g true)
    else return none
  | "enum" =>
    if ← pure pending <||> atName then
      skip
      enumeration g
      return some .other
    else return none
  | "interface" =>
    if ← pure pending <||> atName then
      skip
      interface g
      return some .other
    else return none
  | "module" =>
    if ← startsLine then return none
    skip
    match (← require).lexeme with
    | .string _ _ =>
      ambientModule g
      return some .other
    | _ =>
      if ← pure pending <||> atName then
        namespaceTail g
        return some .other
      else return none
  | "namespace" =>
    if ← pure pending <||> atName then
      skip
      namespaceTail g
      return some .other
    else return none
  | "type" =>
    if ← pure pending <||> (notM startsLine <&&> atName) then
      skip
      typeAlias g
      return some .other
    else return none
  | _ => return none

def constantEnumeration (g : Rules src) : Parser src (Item src) := do
  bump
  bump
  enumeration g
  return .other

/-- A declaration after `declare`, which stands at `start`, if one comes. -/
def ambientDeclaration? (g : Rules src) (start : Cursor src) :
    Parser src (Option (Item src)) := do
  if (← get).context.inDeclare then
    report start
      (.rule "`declare` modifier not allowed for code already in an ambient context")
  within (fun c => { c with inDeclare := true }) do
    if ← isWord "function" then return some (← functionDeclaration g false)
    else if ← isWord "class" then return some (← classDeclaration g false)
    else if ← isWord "const" <&&> peekIsWord "enum" then return some (← constantEnumeration g)
    else if ← isOneOfWords ["const", "var", "let"] then return some (← variableStatement g)
    else if ← isWord "global" then
      ambientModule g
      return some .other
    else match (← next).text? with
      | some name => wordDeclaration? g name true
      | none => return none

end TypeGuard.TypeScript.Parser

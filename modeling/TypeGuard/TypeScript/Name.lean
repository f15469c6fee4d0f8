import TypeGuard.TypeScript.Grammar

namespace TypeGuard.TypeScript

variable {src : List Char}

/-- Words that can be names although strict code does not want them. -/
def isUnwanted (word : String) : Bool :=
  word == "yield" || word == "let" || word == "static" || isStrictWord word

namespace Parser

/-- Whether a token is a name under the present surroundings. -/
def isNameToken (t : Token src) : Parser src Bool := do
  match t.lexeme with
  | .word name => return !(← get).context.reserves name
  | .name _ => return true
  | _ => return false

def atName : Parser src Bool := do
  isNameToken (← next)

def atWord : Parser src Bool :=
  return (← next).isAnyWord

def anyWord : Parser src (Cursor src × String) := do
  let start ← here
  let t ← require
  match t.text? with
  | some name =>
    bump
    return (start, name)
  | none => fail .expectedName

/-- Checks the name `arguments` at a place, which nothing can be called in the value of a
property. -/
def checkArguments (place : Cursor src) (name : String) : Parser src Unit := do
  if name == "arguments" && (← get).context.inField then report place .misplacedArguments

/-- Checks that a word at a place, which has just been read, can be a name. -/
def checkName (place : Cursor src) (word : String) (yieldAllowed : Bool) : Parser src Unit := do
  if word == "enum" then report place (.strictName word)
  else if isUnwanted word then reportStrict place (.strictName (nameOf word))
  let c := (← get).context
  if word == "await" then
    if c.inDeclare then return ()
    else if c.inStaticBlock then failAt place .expectedName
    else failAt place .reservedAwait
  else if word == "yield" && !yieldAllowed then failAt place .expectedName
  else if isKeyword word && word != "this" && word != "let" && word != "yield" then
    failAt place .expectedName
  else checkArguments place word

def identifier (yieldAllowed : Bool) : Parser src (Cursor src × String) := do
  let start ← here
  let t ← require
  match t.lexeme with
  | .word word =>
    bump
    checkName t.start word yieldAllowed
    return (start, nameOf word)
  | .name text =>
    bump
    checkArguments t.start text
    return (start, text)
  | _ => fail .expectedName

def privateName : Parser src (Cursor src × String) := do
  let start ← here
  expect .hash
  let stop := (← get).lastStop
  if (← here).offset != stop.offset then
    failAt start (.rule "Unexpected space between # and identifier")
  let (_, name) ← anyWord
  return (start, name)

def bindingName : Parser src (Cursor src × String) := do
  let (start, name) ← identifier true
  if isRestricted name then reportStrict start .strictBinding
  let c := (← get).context
  if (c.inAsync || c.inStaticBlock) && name == "await" then report start .expectedName
  if c.inGenerator && name == "yield" then report start .expectedName
  return (start, name)

def bindingName? : Parser src (Option (Cursor src × String)) := do
  if ← atName <||> isWord "this" then return some (← bindingName)
  else return none

/-- Whether a token can follow a modifier on the same line. -/
def canFollowModifier (t : Token src) : Bool :=
  !t.startsLine && match t.lexeme with
    | .symbol s => s == .bracketOpen || s == .braceOpen || s == .star || s == .ellipsis || s == .hash
    | .word _ | .name _ | .string _ _ | .number _ _ | .bigint _ _ => true
    | _ => false

/-- Reads one of several modifiers, if what follows shows that it is one. -/
def modifier? (allowed : List String) : Parser src (Option String) := do
  match (← require).text? with
  | some name =>
    if allowed.contains name then
      attempt do
        bump
        return if canFollowModifier (← next) then some name else none
    else return none
  | none => return none

/-- Words that make a constructor parameter a property. -/
def accessModifiers : List String := ["public", "protected", "private"]

def parameterModifier : Parser src Bool := do
  let allowed := accessModifiers ++ ["readonly"]
  if !allowed.any (← require).isWord then return false
  else if ← (return (← afterNext).isAnyWord) <||> peekIs .braceOpen <||> peekIs .bracketOpen then
    let _ ← modifier? allowed
    return true
  else return false

/-- Reads an access modifier. The words for variance are accepted in its place, with an error, and
count as none. -/
def accessModifier : Parser src (Option String) := do
  match ← modifier? (accessModifiers ++ ["in", "out"]) with
  | some name =>
    if accessModifiers.contains name then return some name
    else
      report (← get).lastStart (.varianceModifier name)
      return none
  | none => return none

end Parser

end TypeGuard.TypeScript

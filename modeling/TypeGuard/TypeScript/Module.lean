import TypeGuard.TypeScript.Statement

namespace TypeGuard.TypeScript.Parser

variable {src : List Char}

def moduleName : Parser src Unit := do
  match (← require).lexeme with
  | .string _ _ => bump
  | _ => unexpected "a string literal"

def importAssertions (g : Rules src) : Parser src Unit := do
  checkNext
  let _ ← next
  if ← notM startsLine <&&> (eatWord "assert" <||> eatWord "with") then
    let _ ← objectLiteral g

def fromClause (g : Rules src) : Parser src Unit := do
  expectWord "from"
  let _ ← here
  moduleName
  importAssertions g
  semicolon

inductive ModuleName (src : List Char) where
  | word (start : Cursor src) (name : String)
  | string (start : Cursor src) (value : String)

/-- The name of an import or an export: a word or a string. -/
def exportName : Parser src (ModuleName src) := do
  checkNext
  let t ← next
  match t.lexeme with
  | .string value _ =>
    bump
    return .string t.start value
  | .word _ | .name _ =>
    let (start, name) ← anyWord
    return .word start name
  | _ => unexpected "identifier or string"

/-- What the word `type` and the words after it in a list of names mean. -/
structure TypeName (src : List Char) where
  orig : Cursor src × String
  /-- Whether `type` is a modifier. -/
  modifies : Bool
  /-- Whether a second name may still follow. -/
  isOpen : Bool := false

/-- A name after the word `type`, which has been read at `start`; `second` reads a second name. The
word is a modifier, unless all that follows is a second name for it. -/
def typeName (start : Cursor src) (second : Parser src (Cursor src × String)) :
    Parser src (TypeName src) := do
  let name ← anyWord
  if name.2 != "as" then return { orig := name, modifies := true, isOpen := true }
  else if !(← atWord) then return { orig := name, modifies := true }
  else
    let (_, following) ← second
    if ← pure (following == "as") <&&> atWord then
      let _ ← second
      return { orig := name, modifies := true }
    else return { orig := (start, "type"), modifies := false }

/-- A word in a list of names; `second` reads a second name after `type`, and `doubled` is what is
wrong with that word if it also stands in front of the list. -/
def listedName (start : Cursor src) (name : String) (second : Parser src (Cursor src × String))
    (doubled : Option Cause) : Parser src (TypeName src) := do
  if ← pure (name == "type") <&&> atWord then
    let found ← typeName start second
    if let some cause := doubled then
      if found.modifies then report start cause
    return found
  else return { orig := (start, name), modifies := false, isOpen := true }

/-- One name of an import list; `typeOnly` says whether `type` stands in front of the list. -/
def importSpecifier (typeOnly : Bool) : Parser src Unit := do
  let _ ← here
  match ← exportName with
  | .string start value =>
    if ← eatWord "as" then
      let _ ← bindingName
    else failAt start (.importedString value)
  | .word start name =>
    let doubled := if typeOnly then
      some (.rule ("The 'type' modifier cannot be used on a named import when 'import type' is " ++
        "used on its import statement."))
      else none
    let found ← listedName start name bindingName doubled
    if found.isOpen then
      if ← eatWord "as" then
        let _ ← bindingName
      else if (← get).context.reservesKey found.orig.2 then
        failAt found.orig.1 (.rule "cannot import as reserved word")

def exportSpecifier (typeOnly : Bool) : Parser src (ModuleName src) := do
  let _ ← here
  let renamed : Parser src Unit := do
    if ← eatWord "as" then
      let _ ← exportName
  match ← exportName with
  | .string start value =>
    renamed
    return .string start value
  | .word start name =>
    let doubled := if typeOnly then
      some (.rule ("The 'type' modifier cannot be used on a named export when 'export type' is " ++
        "used on its export statement."))
      else none
    let found ← listedName start name anyWord doubled
    if found.isOpen then renamed
    return .word found.orig.1 found.orig.2

def specifiers {α : Type} (one : Parser src α) : Parser src (List α) := do
  let found ← loop ([] : List α) fun found => do
    if ← atEnd <||> is .braceClose then return .done found.reverse
    else
      let found := (← one) :: found
      if ← is .braceClose then return .done found.reverse
      else
        expect .comma
        return .again found
  expect .braceClose
  return found

/-- A name for a module or a part of one, from its equals sign on. -/
def importAlias : Parser src Unit := do
  expect .assign
  if ← isWord "require" <&&> peekIs .parenOpen then
    bump
    bump
    moduleName
    expect .parenClose
  else entityName false
  semicolon

def importedName : Parser src (Cursor src × String) :=
  within (fun c => { c with inAsync := false, inGenerator := false }) bindingName

/-- What an import binds to a single name, up to the comma after it, and whether it is for types
only; `none` stands for an alias, after which nothing comes. -/
def importDefault? : Parser src (Option Bool) := do
  if !(← atName) then return some false
  let (_, name) ← importedName
  let isType := name == "type"
  if ← pure isType <&&> isOneOf [.star, .braceOpen] then return some true
  let typeOnly ← do
    if ← pure isType <&&> atName then
      if ← notM (isWord "from") <||> peekIsWord "from" then
        let _ ← importedName
        pure true
      else if ← peekIs .assign then
        let _ ← anyWord
        pure true
      else pure false
    else pure false
  if ← is .assign then
    importAlias
    return none
  if !(← isWord "from") then expect .comma
  return some typeOnly

def importClause (g : Rules src) : Parser src Unit := do
  if let some typeOnly ← importDefault? then
    let _ ← here
    if ← eat .star then
      expectWord "as"
      let _ ← importedName
    else if ← eat .braceOpen then
      let _ ← specifiers (importSpecifier typeOnly)
    fromClause g

def importStatement (g : Rules src) : Parser src (Item src) := do
  let _ ← expression g
  let _ ← eatSemicolon
  return .other

def importItem (g : Rules src) : Parser src (Item src) := do
  if ← peekIs .dot <||> peekIs .parenOpen then importStatement g
  else
    bump
    checkNext
    let _ ← here
    checkNext
    match (← next).lexeme with
    | .string _ _ =>
      bump
      importAssertions g
      nothing semicolon
    | _ => nothing (importClause g)

def defaultExport (g : Rules src) : Parser src (Item src) := do
  if ← isWord "abstract" <&&> peekIsWordOnLine "class" then
    bump
    let _ ← require
    defaultClass g true
  else
    if ← isWord "abstract" <&&> peekIsWord "interface" then
      report (← spot)
        (.rule "`abstract` modifier can only appear on a class or method declaration")
      bump
    if ← eatWord "interface" then nothing (interface g)
    else if ← isWord "class" then defaultClass g false
    else if ← isWord "async" <&&> peekIsWordOnLine "function" then
      bump
      defaultFunction g true
    else if ← isWord "function" then defaultFunction g false
    else
      let _ ← assignment g
      nothing semicolon

/-- Words that cannot be the name of a variable which is exported. -/
def isUnexported (name : String) : Bool :=
  (isReservedWord name && name != "with") || name == "package"

def checkExported : ModuleName src → Parser src Unit
  | .word place name =>
    if isUnexported name then report place (.exportWithoutSource name) else pure ()
  | .string place _ =>
    report place
      (.rule "A string literal cannot be used as an exported binding without `from`.")

def exportList (g : Rules src) (typeOnly : Bool) : Parser src Unit := do
  expect .braceOpen
  let found ← specifiers (exportSpecifier typeOnly)
  if ← isWord "from" then fromClause g
  else
    found.forM checkExported
    let _ ← eatSemicolon

/-- All exports of another module, or a list of exports. -/
def exportNames (g : Rules src) (typeOnly : Bool) : Parser src Unit := do
  if ← is .star <&&> notM (peekIsWord "as") then
    bump
    fromClause g
  else if ← is .star then
    bump
    expectWord "as"
    let _ ← exportName
    if ← isWord "from" then fromClause g else expectWord "from"
  else exportList g typeOnly

def exportedItem (g : Rules src) : Parser src (Item src) := do
  let _ ← here
  if ← eatWord "type" then nothing (exportNames g true)
  else if ← eatWord "default" then defaultExport g
  else if ← isWord "class" then classDeclaration g false
  else if ← isWord "async" <&&> peekIsWordOnLine "function" then
    bump
    functionDeclaration g true
  else if ← isWord "function" then functionDeclaration g false
  else if ← isWord "const" <&&> peekIsWord "enum" then constantEnumeration g
  else if ← isOneOfWords ["var", "const"] <||>
      (isWord "let" <&&> (return canFollowLet (← afterNext))) then variableStatement g
  else nothing (exportNames g false)

def exportItem (g : Rules src) : Parser src (Item src) := do
  bump
  let _ ← require
  let start ← here
  let ambient ← do
    if ← eatWord "declare" then ambientDeclaration? g start else pure none
  if let some item := ambient then return item
  let declared ← do
    match (← next).text? with
    | some name => attempt (wordDeclaration? g name true)
    | none => pure none
  if let some item := declared then return item
  if ← eatWord "import" then
    let _ ← isWord "type" <&&> (afterNext >>= isNameToken) <&&> eatWord "type"
    let _ ← anyWord
    nothing importAlias
  else if ← eat .assign then
    let _ ← expression g
    nothing semicolon
  else if ← eatWord "as" then
    expectWord "namespace"
    let _ ← identifier false
    nothing semicolon
  else exportedItem g

/-- Any statement of a source; imports and exports belong to its top level. -/
def item (g : Rules src) (declarations topLevel : Bool) : Parser src (Item src) := do
  let _ ← here
  if ← isOneOfWords ["import", "export"] then
    if topLevel then
      if ← isWord "import" then importItem g else exportItem g
    else if ← isWord "import" <&&> (peekIs .parenOpen <||> peekIs .dot) then importStatement g
    else fail .misplacedImport
  else within (fun c => { c with colonEnds := false }) (statement g declarations topLevel)

end TypeGuard.TypeScript.Parser

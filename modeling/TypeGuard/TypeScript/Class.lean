import TypeGuard.TypeScript.Function

namespace TypeGuard.TypeScript.Parser

variable {src : List Char}

def memberKey (g : Rules src) : Parser src (Key src) := do
  if ← is .hash then
    let (start, name) ← privateName
    if name == "constructor" then report start .hiddenConstructor
    return .hidden start name
  else propertyKey g

/-- Whether the parameters of a method come next. -/
def atMethod : Parser src Bool :=
  isOneOf [.parenOpen, .less]

/-- Whether what follows makes the key before it a property; with `lines` the end of a line does as
well. -/
def atProperty (lines : Bool) : Parser src Bool :=
  isOneOf [.bang, .colon, .assign, .braceClose] <||>
    (if lines then atSemicolon else is .semicolon)

/-- What stands in front of the key of a member. -/
structure Modifiers (src : List Char) where
  start : Cursor src
  /-- Whether the word `declare` stands in front, before or after the access. -/
  declared : Bool := false
  hasAccess : Bool := false
  isStatic : Bool := false
  /-- Place of the word `static`, if it stands in front of all other modifiers but the access. -/
  staticPlace : Option (Cursor src) := none
  isAccessor : Bool := false
  isAbstract : Bool := false
  isOverride : Bool := false
  isReadonly : Bool := false
  last : Option (Cursor src) := none

def Modifiers.fault? (m : Modifiers src) (hasSuperclass : Bool) (name : String) : Option Cause :=
  match name with
  | "abstract" =>
    if m.isAbstract then some (.repeatedModifier name)
    else if m.isOverride then some (.modifierOrder name "override")
    else none
  | "override" =>
    if m.isOverride then some (.repeatedModifier name)
    else if m.isReadonly then some (.modifierOrder name "readonly")
    else if m.declared then some (.modifierClash name "declare")
    else if !hasSuperclass then
      some (.rule ("This member cannot have an 'override' modifier because its containing class " ++
        "does not extend another class."))
    else none
  | "readonly" => if m.isReadonly then some (.repeatedModifier name) else none
  | _ => if m.isOverride then some (.modifierOrder name "override") else none

def Modifiers.add (m : Modifiers src) (name : String) (place : Cursor src) : Modifiers src :=
  let m := { m with last := some place }
  match name with
  | "abstract" => { m with isAbstract := true }
  | "override" => { m with isOverride := true }
  | "readonly" => { m with isReadonly := true }
  | _ => { m with isStatic := true }

def method (g : Rules src) (m : Modifiers src) (key : Key src)
    (params : Parser src (List (Binding src))) (async generator : Bool) :
    Parser src (Member src) := do
  let r ← within (fun c => { c with inStaticBlock := false }) (routine g params async generator)
  let hidden := key.method?.isNone
  if m.isAbstract && r.body.isSome && !hidden then report m.start .abstractBody
  return {
    start := m.start
    method := some (key.method?, r)
    isAbstract := m.isAbstract && !hidden }

def checkPropertyKey (m : Modifiers src) (key : Key src) : Parser src Unit := do
  if key.isConstructor then failAt key.start .constructorProperty
  if key.method?.isNone then
    if m.declared then report key.start (.hiddenModifier "declare")
    if m.isAbstract then report key.start (.hiddenModifier "abstract")

def property (g : Rules src) (m : Modifiers src) (key : Key src) (isOptional : Bool) :
    Parser src (Member src) := do
  checkPropertyKey m key
  if !isOptional then
    let _ ← eat .bang
  let _ ← annotation? g
  within (fun c => { c with inAllowed := true, inField := true }) do
    let initialized ← eat .assign
    if initialized then
      let _ ← g .assignment
    if !(← eatSemicolon) then report (← spot) .expectedSemicolon
    let isAbstract := m.isAbstract && !m.isAccessor && key.method?.isSome
    if isAbstract && initialized then
      report m.start (.rule "Abstract property cannot have an initializer.")
    return { start := m.start, isAbstract }

/-- Type parameters of a constructor, which has none. -/
def constructorGenerics (g : Rules src) : Parser src Unit := do
  if ← is .less then
    let cause := Cause.rule "Type parameters cannot appear on a constructor declaration"
    let start ← here
    if ← peekIs .greater then
      bump
      let stop ← here
      bump
      report start (.rule "Type parameter list cannot be empty")
      report stop cause
    else
      (← typeParameters g .function).forM fun place => report place cause

def constructorResult (g : Rules src) : Parser src Unit := do
  if ← is .colon then
    let place ← within (fun c => { c with inType := true }) do
      bump
      let place ← here
      let _ ← g .type
      return place
    report place (.rule "Type annotation cannot appear on a constructor declaration")

def constructor (g : Rules src) (m : Modifiers src) : Parser src (Member src) := do
  if m.isOverride then report m.start (.constructorModifier "override")
  constructorGenerics g
  expect .parenOpen
  let ps ← constructorParameters g
  expect .parenClose
  constructorResult g
  let body ← functionBody g false false (ps.all Binding.isSimple)
  if body.isNone then
    ps.forM fun p => match p.property with
      | some place => report place .parameterProperty
      | none => pure ()
    checkInitializers ps
  if let some place := m.staticPlace then report place (.constructorModifier "static")
  if let some place := m.last then
    if m.isAbstract then
      report place (.rule "`abstract` modifier can only appear on a class or method declaration")
  return {
    start := m.start
    method := some (some "constructor", ⟨ps, body⟩)
    isConstructor := true }

/-- Parameters of a getter, which takes none besides `this`; errors are reported at a place. -/
def getterParameters (g : Rules src) (place : Cursor src) : Parser src (List (Binding src)) := do
  let ps ← parameters g
  if ps.any fun p => p.name != some "this" then report place .getterParameters
  return ps

/-- Parameters of a setter, which takes one besides `this`. -/
def setterParameters (g : Rules src) (place : Cursor src) : Parser src (List (Binding src)) := do
  let ps ← parameters g
  if (ps.filter fun p => p.name != some "this").length != 1 then report place .setterParameters
  if let some p := ps.head? then
    if p.isRest then report p.start .restInSetter
  return ps

def accessorParameters (g : Rules src) (kind : String) (place : Cursor src) :
    Parser src (List (Binding src)) :=
  if kind == "get" then getterParameters g place else setterParameters g place

/-- An accessor after the word `kind`, which stands at `place`. -/
def accessor (g : Rules src) (m : Modifiers src) (kind : String) (place : Cursor src) :
    Parser src (Member src) := do
  let key ← memberKey g
  if m.isReadonly then report place (.rule "A getter or a setter cannot be readonly")
  if key.isConstructor then report place .accessorConstructor
  method g m key (accessorParameters g kind place) false false

/-- An asynchronous method after that word, or after a question mark behind it. -/
def asyncMethod (g : Rules src) (m : Modifiers src) (isOptional : Bool) :
    Parser src (Member src) := do
  if (← modifier? ["override"]).isSome then
    report (← get).lastStart (.modifierOrder "override" "async")
  let generator ← eat .star
  let key ← memberKey g
  if key.isConstructor then failAt key.start .asyncConstructor
  if m.isReadonly then failAt m.start .readonlyMethod
  let _ ← pure isOptional <||> eat .question
  method g m key (parameters g) true generator

def keyedMember (g : Rules src) (m : Modifiers src) : Parser src (Member src) := do
  let key ← memberKey g
  let isOptional ← eat .question
  if ← atMethod then
    if m.declared then
      report m.start (.rule "`declare` modifier cannot appear on class elements of this kind")
    if m.isReadonly then failAt m.start .readonlyMethod
    if key.isConstructor then constructor g m
    else method g m key (parameters g) false false
  else
    let generatorNext ← startsLine <&&> is .star
    let word := key.word?
    let isAccessor ← do
      if word == some "get" || word == some "set" then
        notM (atProperty false) <&&> pure !generatorNext
      else pure false
    if ← pure !isAccessor <&&> atProperty true then property g m key isOptional
    else if ← pure (word == some "async") <&&> notM startsLine then asyncMethod g m isOptional
    else
      match key with
      | .name place kind =>
        if isAccessor then accessor g m kind place
        else unexpected "* for generator, private key, identifier or async"
      | _ => unexpected "* for generator, private key, identifier or async"

def moreModifiers (m : Modifiers src) : Parser src (Modifiers src) :=
  loop m fun m => do
    let _ ← require
    if ← isWord "static" <&&> peekIs .braceOpen then return .done m
    else
      match ← modifier? ["abstract", "readonly", "override", "static"] with
      | some name =>
        let place := (← get).lastStart
        if let some cause := m.fault? (← get).context.hasSuperclass name then report place cause
        return .again (m.add name place)
      | none => return .done m

def staticBlock (g : Rules src) (m : Modifiers src) : Parser src (Member src) := do
  let _ ← within (fun c => { c with inStaticBlock := true, inField := true }) (block g)
  return { start := m.start }

/-- A block that is run once for the class, from its brace or the word `static` on, if there is
one. It cannot have modifiers. -/
def staticBlock? (g : Rules src) (m : Modifiers src) : Parser src (Option (Member src)) := do
  let stray (place : Option (Cursor src)) : Parser src Unit := do
    if let some place := place then report place .misplacedModifier
  if ← pure m.isStatic <&&> is .braceOpen then
    if m.declared then report m.start .misplacedModifier
    if m.hasAccess then report (← spot) .misplacedModifier
    return some (← staticBlock g m)
  else if ← isWord "static" <&&> peekIs .braceOpen then
    stray m.last
    stray m.staticPlace
    bump
    if m.hasAccess then report (← spot) .misplacedModifier
    return some (← staticBlock g m)
  else return none

/-- A member after `declare`, an access modifier, `static` and `accessor`. -/
def modifiedMember (g : Rules src) (m : Modifiers src) : Parser src (Member src) := do
  let m ← moreModifiers m
  let isAccessor ← pure m.isAccessor <||> eatWord "accessor"
  let m := { m with isAccessor }
  if let some found ← staticBlock? g m then return found
  else if ← pure (!m.isAbstract && !m.hasAccess) <&&> indexSignature? g then
    return { start := m.start }
  else if ← eat .star then
    let key ← memberKey g
    if m.isReadonly then report m.start .readonlyMethod
    if key.isConstructor then report m.start .generatorConstructor
    method g m key (parameters g) false true
  else keyedMember g m

/-- After a word that may be a modifier: the member of that name, if it is one after all. -/
def memberNamed? (g : Rules src) (m : Modifiers src) (name : String) (place : Cursor src)
    (lines : Bool) : Parser src (Option (Member src)) := do
  let key := Key.name place name
  if ← atMethod then return some (← method g m key (parameters g) false false)
  else if ← atProperty lines <||> is .question then
    let isOptional ← eat .question
    return some (← property g m key isOptional)
  else return none

def member (g : Rules src) : Parser src (Member src) := do
  let start ← here
  let declared ← eatWord "declare"
  let hasAccess := (← accessModifier).isSome
  let m : Modifiers src := { start, hasAccess }
  let declared ← pure declared <||> eatWord "declare"
  if declared then
    if let some found ← memberNamed? g m "declare" start true then return found
  let m := { m with declared }
  let place ← here
  let isStatic ← eatWord "static"
  if isStatic then
    if let some found ← memberNamed? g m "static" place false then return found
  let m := { m with isStatic, staticPlace := if isStatic then some place else none }
  let place ← here
  let isAccessor ← eatWord "accessor"
  if isAccessor then
    if let some found ← memberNamed? g m "accessor" place true then return found
  modifiedMember g { m with isAccessor }

/-- The members of a class up to its closing brace, which stays. -/
def members (g : Rules src) : Parser src (List (Member src)) :=
  loop (([] : List (Member src)), false) fun (found, constructed) => do
    if ← atEnd <||> is .braceClose then return .done found.reverse
    else if ← eat .semicolon then return .again (found, constructed)
    else
      let m ← member g
      let constructs := m.isConstructor && m.function?.isSome && !(← get).context.inDeclare
      if constructs && constructed then report m.start .duplicateConstructor
      return .again (m :: found, constructed || constructs)

def superclass (g : Rules src) : Parser src Unit := do
  let e ← g .leftHandSide
  if ← pure (e.form != .instantiation) <&&> is .less then typeArguments g

/-- A type or a class by its name, with type arguments; the result is its place. -/
def heritageElement (g : Rules src) : Parser src (Cursor src) := do
  let start ← here
  let (place, name) ← anyWord
  let e ← g (.subscripts (.named place name) false false)
  match e.form with
  | .name _ | .member | .instantiation => pure ()
  | _ =>
    report start (.rule ("An interface can only extend an identifier/qualified-name with " ++
      "optional type arguments."))
  if ← pure (e.form != .instantiation) <&&> is .less then typeArguments g
  return start

def heritage (g : Rules src) : Parser src (List (Cursor src)) :=
  commaList (is .braceOpen <||> isOneOfWords ["implements", "extends"]) (heritageElement g)

/-- What a class extends and implements. A clause after the one for `implements` is one too many,
whichever it is. The result says whether the class extends anything. -/
def classHeritage (g : Rules src) : Parser src Bool := do
  let first ← eatWord "extends"
  if first then
    superclass g
    if ← eat .comma then
      (← heritage g).forM fun place => report place .secondSuperclass
  if ← eatWord "extends" then
    report (← get).lastStart .secondExtends
    superclass g
  if ← eatWord "implements" then
    let _ ← heritage g
  if ← eatWord "implements" then
    report (← get).lastStart .secondImplements
    let _ ← heritage g
  if ← eatWord "extends" then
    report (← get).lastStart .secondImplements
    superclass g
    return true
  else return first

/-- A class after its name: type parameters, heritage and body. -/
def classTail (g : Rules src) : Parser src (List (Member src)) := do
  typeParameters? g .class_
  let hasSuperclass ← classHeritage g
  expect .braceOpen
  let found ← within (fun c => { c with hasSuperclass }) (members g)
  if ← atStop then
    let shown := (← next).lexeme.shown
    report (← spot) (.expected Symbol.braceClose.text shown)
  else expect .braceClose
  return found

/-- Names of types that a class cannot have. -/
def isTypeName (name : String) : Bool :=
  ["any", "bigint", "boolean", "intrinsic", "never", "null", "number", "object", "string", "symbol",
    "unknown", "void"].contains name

def checkClassName (name : Cursor src × String) : Parser src Unit := do
  if isTypeName name.2 then report name.1 (.rule "Invalid class name")

def className : Parser src String := do
  let name ← bindingName
  checkClassName name
  return name.2

def className? : Parser src (Option String) := do
  let name ← bindingName?
  name.forM checkClassName
  return name.map Prod.snd

/-- A class with its keyword; `name` reads its name. -/
def classWith {α : Type} (g : Rules src) (isAbstract : Bool) (name : Parser src α) :
    Parser src (α × List (Member src)) := do
  let _ ← here
  let (found, members) ← within (fun c => { c with strict := true, inClass := true }) do
    expectWord "class"
    let found ← name
    return (found, ← classTail g)
  if !isAbstract then
    members.forM fun m => if m.isAbstract then report m.start .abstractMember else pure ()
  return (found, members)

def classDeclaration (g : Rules src) (isAbstract : Bool) : Parser src (Item src) := do
  let (name, members) ← classWith g isAbstract className
  return .class_ name members

def defaultClass (g : Rules src) (isAbstract : Bool) : Parser src (Item src) := do
  let (name, members) ← classWith g isAbstract className?
  return .class_ (name.getD "default") members

def classExpression (g : Rules src) : Parser src Unit := do
  let _ ← classWith g false className?

end TypeGuard.TypeScript.Parser

import TypeGuard.TypeScript.Expression.Arrow

namespace TypeGuard.TypeScript.Parser

variable {src : List Char}

/-- An element of an array or a property of an object, seen as part of a pattern. -/
structure Part (src : List Char) where
  asTarget : Verdict src := {}
  asBinding : Verdict src := {}
  restricted : List (Cursor src) := []
  /-- Place of a property `a = 1`. -/
  shorthand : Option (Cursor src) := none

namespace Part

/-- The same verdict in front of what is wrong with a part, however it is used. -/
def after (part : Part src) (v : Verdict src) : Part src :=
  { part with asTarget := v.andThen part.asTarget, asBinding := v.andThen part.asBinding }

def wrong (v : Verdict src) : Part src :=
  { asTarget := v, asBinding := v }

def ofExpr (strict : Bool) (e : Expr src) : Part src :=
  { asTarget := e.element strict, asBinding := e.asBinding, restricted := e.restricted }

def ofElement (strict : Bool) : Option (Cursor src) × Expr src → Part src
  | (none, e) => ofExpr strict e
  | (some dots, _) => wrong (.wrong dots .restElementNotLast)

/-- The last element of an array as part of a pattern, with the place of a comma after it. Only this
one can take all the rest. -/
def ofLastElement (strict : Bool) (comma : Option (Cursor src)) :
    Option (Cursor src) × Expr src → Part src
  | (none, e) => ofExpr strict e
  | (some dots, e) =>
    (ofExpr strict e).after ((e.restInitializer dots).andThen (.wrongAt comma .commaAfterRest))

/-- What an object takes over from another one, as part of a pattern. -/
def ofSpread (strict : Bool) (dots : Cursor src) (e : Expr src) : Part src where
  asTarget := (e.element strict).andThen
    (if e.form == .assignment then .wrong dots .restInitializer else {})
  asBinding := if e.form.isName then {} else .wrong dots .dotsWithoutName
  restricted := if e.form.isName then e.restricted else []

end Part

def literal (start : Cursor src) (form : Form) (parts : List (Part src)) : Expr src where
  start := start
  form := form
  asTarget := .all (parts.map Part.asTarget)
  asBinding := .all (parts.map Part.asBinding)
  restricted := parts.flatMap Part.restricted
  shorthands := parts.filterMap Part.shorthand

/-- The elements of an array after its bracket; gaps between commas are elements, too. With them
goes the place of a comma after the last one. -/
def elements (g : Rules src) :
    Parser src (List (Option (Option (Cursor src) × Expr src)) × Option (Cursor src)) :=
  loop (([] : List (Option (Option (Cursor src) × Expr src))), (none : Option (Cursor src)))
    fun (found, comma) => do
      if ← atEnd <||> is .bracketClose then
        expect .bracketClose
        return .done (found.reverse, comma)
      else if ← eat .comma then return .again (none :: found, comma)
      else
        let found := some (← spreadable g) :: found
        if !(← is .bracketClose) then
          expect .comma
          if ← is .bracketClose then return .again (found, some (← get).lastStart)
        return .again (found, comma)

def arrayLiteral (g : Rules src) : Parser src (Expr src) := do
  let start ← here
  within (fun c => { c with colonEnds := false }) do
    bump
    let strict := (← get).context.strict
    let (found, comma) ← elements g
    let parts := found.dropLast.filterMap (Option.map (Part.ofElement strict)) ++
      (found.getLast?.bind id).toList.map (Part.ofLastElement strict comma)
    return literal start .array parts

def methodProperty (g : Rules src) (key : Cursor src)
    (params : Parser src (List (Binding src))) (async generator : Bool) :
    Parser src (Part src) := do
  let _ ← routine g params async generator
  return .wrong (.refuse key .notPattern)

/-- An accessor of an object after the word `kind`. A setter without any parameter is reported once
more after its body. -/
def accessorProperty (g : Rules src) (start : Cursor src) (kind : String) (key : Key src) :
    Parser src (Part src) := do
  let r ← routine g (accessorParameters g kind key.start) false false
  if kind == "set" && r.params.isEmpty then report key.start .setterParameters
  return .wrong (.refuse start .notPattern)

def prefixedProperty (g : Rules src) (start : Cursor src) (kind : String) :
    Parser src (Part src) := do
  let generator ← pure (kind == "async") <&&> eat .star
  let key ← propertyKey g
  if kind == "async" then methodProperty g key.start (parameters g) true generator
  else accessorProperty g start kind key

/-- Whether what comes next can follow the key of a property. Only a name can do without a
value. -/
def canFollowKey (key : Key src) : Parser src Bool := do
  let isText ← isOneOf [.parenOpen, .bracketOpen, .colon, .comma, .question, .assign, .star] <||>
    atWord <||> (return (← next).isString) <||> (return (← next).isNumber) <||> is .less
  pure isText <||> (is .braceClose <&&> pure key.word?.isSome)

/-- A property after its key, if it is neither a pair nor a method; `modifier` is the place of a
modifier in front of it. -/
def shorthandProperty (g : Rules src) (start : Cursor src) (modifier : Option (Cursor src))
    (key : Key src) : Parser src (Part src) := do
  let some name := key.word? | unexpected "identifier"
  if ← eat .question then
    report (← get).lastStart (.rule "An object member cannot be declared optional")
  if ← isOneOf [.assign, .comma, .braceClose] then
    if (← get).context.reservesKey name then report key.start .reservedShorthand
    let initialized ← eat .assign
    if initialized then
      let _ ← assignment g
    return {
      restricted := if isRestricted name then [key.start] else []
      shorthand := if initialized then some key.start else none }
  else if name == "get" || name == "set" || name == "async" then
    if let some place := modifier then
      report place (.rule "`async` modifier cannot be used here")
    prefixedProperty g start name
  else
    unexpected
      "... , *,  (, [, :, , ?, =, an identifier, public, protected, private, readonly, <."

def keyedProperty (g : Rules src) (start : Cursor src) : Parser src (Part src) := do
  let modified ← parameterModifier
  let place := (← get).lastStart
  let modifier := if modified then some place else none
  let key ← propertyKey g
  if !(← canFollowKey key) then
    report (← spot) .expectedSemicolon
    return {}
  else if ← eat .colon then
    let e ← assignment g
    return .ofExpr (← get).context.strict e
  else if ← isOneOf [.less, .parenOpen] then
    methodProperty g key.start (parameters g) false false
  else shorthandProperty g start modifier key

def objectProperty (g : Rules src) : Parser src (Part src ⊕ Cursor src × Expr src) := do
  let start ← here
  if ← eat .ellipsis then return .inr (start, ← assignment g)
  else if ← eat .star then
    let key ← propertyKey g
    return .inl (← methodProperty g key.start (parameters g) false true)
  else return .inl (← keyedProperty g start)

/-- The properties of an object as parts of a pattern; `comma` is the place of a comma after the
last one. Only the last one can take all the rest. -/
def objectParts (strict : Bool) (comma : Option (Cursor src)) :
    List (Part src ⊕ Cursor src × Expr src) → List (Part src)
  | [] => []
  | .inl part :: rest => part :: objectParts strict comma rest
  | [.inr (dots, e)] => [(Part.ofSpread strict dots e).after (.wrongAt comma .commaAfterRest)]
  | .inr (dots, e) :: rest =>
    (Part.ofSpread strict dots e).after (.wrong dots .restElementNotLast) ::
      objectParts strict comma rest

def objectLiteral (g : Rules src) : Parser src (Expr src) :=
  within (fun c => { c with colonEnds := false }) do
    let start ← here
    bump
    let (found, comma) ←
      loop (([] : List (Part src ⊕ Cursor src × Expr src)), (none : Option (Cursor src)))
        fun (found, comma) => do
          if ← eat .braceClose then return .done (found.reverse, comma)
          else
            let found := (← objectProperty g) :: found
            if !(← is .braceClose) then
              expect .comma
              if ← is .braceClose then return .again (found, some (← get).lastStart)
            return .again (found, comma)
    return literal start .object (objectParts (← get).context.strict comma found)

def regExpFlags : List Char := ['d', 'g', 'i', 'm', 's', 'u', 'v', 'y']

def firstRepeated : List Char → Option Char
  | [] => none
  | c :: cs => if cs.contains c then some c else firstRepeated cs

def checkFlags (place : Cursor src) (flags : List Char) : Parser src Unit := do
  if !(flags.all regExpFlags.contains) then
    report place (.rule "Unknown regular expression flags.")
  if let some flag := firstRepeated (flags.filter regExpFlags.contains) then
    report place (.duplicateFlag flag)

def regExpLiteral : Parser src (Expr src) := do
  let start := (← next).start
  match Scan.regExp? (start.rest.drop 1) with
  | some e =>
    if !(← get).context.trial then
      e.remarks.forM fun r => add (Token.faultAt start r)
    jump 0 e.length fun n => n.after .other false
    match e.value with
    | .ok regExp =>
      checkFlags start regExp.flags
      return .plain start .literal
    | .error r => throw (Token.faultAt start r)
  | none =>
    let fault : Fault src := { place := start, cause := .unclosedRegExp }
    spoil fault
    throw fault

end TypeGuard.TypeScript.Parser

import TypeGuard.TypeScript.Binding
import TypeGuard.TypeScript.Template

namespace TypeGuard.TypeScript.Parser

variable {src : List Char}

def typeStarts : String :=
  "an identifier, void, yield, null, await, break, a string literal, a numeric literal, true, " ++
    "false, `, -, import, this, typeof, \x7b, [, ("

/-- Elements with commas between them up to a token that `ends` knows, which stays. -/
def commaList {α : Type} (ends : Parser src Bool) (element : Parser src α) :
    Parser src (List α) :=
  loop ([] : List α) fun found => do
    if (← ends) then return .done found.reverse
    else
      let _ ← here
      let found := (← element) :: found
      if (← eat .comma) then return .again found
      else if (← ends) then return .done found.reverse
      else
        expect .comma
        return .again found

/-- Fails because a sign is missing that a type comes after; the token in its place is shown as one
that may not be there. -/
def missingBefore {α : Type} (cause : String → Cause) : Parser src α := do
  checkNext
  let t ← next
  fail (cause (if t.isStop then "None" else "Some(" ++ t.lexeme.shown ++ ")"))

def typeAfter (g : Rules src) (mark : Symbol) : Parser src Unit :=
  within (fun c => { c with inType := true }) do
    if !(← eat mark) then missingBefore fun got => .unexpected got mark.text
    let _ ← g .type

def typeAfterWord (g : Rules src) (mark : String) : Parser src Unit :=
  within (fun c => { c with inType := true }) do
    if !(← eatWord mark) then missingBefore fun got => .unexpected got mark
    let _ ← g .type

def typeArguments (g : Rules src) : Parser src Unit := do
  within (fun c => { c with inType := true }) do
    isolated do
      if ← is .shiftLeft then halve else expect .less
      let _ ← commaList (is .greater) (g .type)
  noOperand
  expect .greater

/-- Type arguments of a named type, where angle brackets are single signs even inside an operand. -/
def innerTypeArguments (g : Rules src) : Parser src Unit :=
  within (fun c => { c with anglesWhole := false }) (typeArguments g)

def typeArguments? (g : Rules src) : Parser src Unit := do
  if ← notM startsLine <&&> isOneOf [.less, .shiftLeft] then innerTypeArguments g

def typeParameterModifiers : List String :=
  ["public", "private", "protected", "readonly", "abstract", "const", "override", "in", "out"]

/-- Which modifiers the parameters of a generic declaration can have. -/
structure Generics where
  /-- The words for variance, which belong to classes, interfaces and aliases. -/
  variance : Bool
  /-- The word `const`, which belongs to classes and functions. -/
  const : Bool

namespace Generics

def function : Generics := ⟨false, true⟩

def class_ : Generics := ⟨true, true⟩

def type : Generics := ⟨true, false⟩

def fault? (g : Generics) (seen : List String) (name : String) : Option Cause :=
  if name == "const" then if g.const then none else some (.constModifier name)
  else if name == "in" || name == "out" then
    if !g.variance then some (.varianceModifier name)
    else if seen.contains name then some (.repeatedModifier name)
    else if name == "in" && seen.contains "out" then some (.modifierOrder "in" "out")
    else none
  else some (.typeParameterModifier name)

end Generics

/-- One type parameter with its modifiers, its constraint and its default; the result is its
place. -/
def typeParameter (g : Rules src) (generics : Generics) : Parser src (Cursor src) := do
  let start ← here
  loop ([] : List String) fun seen => do
    match ← modifier? typeParameterModifiers with
    | some name =>
      if let some cause := generics.fault? seen name then report (← get).lastStart cause
      return .again (name :: seen)
    | none => return .done ()
  let _ ← anyWord
  if (← eatWord "extends") then
    let _ ← g .type
  if (← eat .assign) then
    let _ ← g .type
  return start

/-- Type parameters in angle brackets; the result is their places. -/
def typeParameters (g : Rules src) (generics : Generics) : Parser src (List (Cursor src)) :=
  within (fun c => { c with inType := true }) do
    isolated do
      let _ ← here
      if !(← is .less) then unexpected "< (jsx tag start)"
      bump
      let places ← commaList (is .greater) (typeParameter g generics)
      expect .greater
      return places

def typeParameters? (g : Rules src) (generics : Generics) : Parser src Unit := do
  if ← is .less then
    let _ ← typeParameters g generics

/-- A dotted name. The name of the empty type cannot have parts. -/
def entityName (words : Bool) : Parser src Unit := do
  let (_, first) ← anyWord
  if first == "void" then
    let _ ← here
    report (← get).lastStop .expectedSemicolon
  loop () fun _ => do
    if (← eat .dot) then
      let place ← here
      if ← is .hash <||> atWord then
        if words then
          let _ ← anyWord
        else
          let _ ← identifier false
        return .again ()
      else
        report place (.rule "Expected an identifier")
        return .done ()
    else return .done ()

/-- The type of a result after `mark`: a type, or a statement about a parameter. -/
def resultType (g : Rules src) (mark : Symbol) : Parser src Unit :=
  within (fun c => { c with inType := true }) do
    let _ ← here
    if !(← eat mark) then missingBefore fun got => .expected mark.text got
    let _ ← here
    let asserts ← do
      if ← isWord "asserts" <&&> (afterNext >>= isNameToken) then
        bump
        let _ ← require
        pure true
      else pure false
    let about ← do
      if (← atName) then peekIsWordOnLine "is" else pure false
    if !asserts && !about then
      let _ ← g .type
    else
      let _ ← anyWord
      if about then
        bump
        let _ ← here
        let _ ← g .type

def resultType? (g : Rules src) : Parser src Unit := do
  if (← is .colon) then resultType g .colon

def signatureParameters (g : Rules src) : Parser src (List (Binding src)) := do
  let params ← parameters g
  if params.any (·.initialized) then
    unexpected
      "an identifier, [ for an array pattern, \x7b for an object patter or ... for a rest pattern"
  expect .parenClose
  return params

/-- Whether what follows an opening parenthesis can only be the parameters of a function type. -/
def startsFunctionType (g : Rules src) : Parser src Bool := do
  bump
  if ← isOneOf [.parenClose, .ellipsis] then return true
  let _ ← parameterModifier
  let named ← do
    if (← atWord) then
      bump
      pure true
    else if ← isOneOf [.braceOpen, .bracketOpen] then
      recover (do
        let _ ← g .pattern
        pure true) fun _ => pure false
    else pure false
  if !named then return false
  if (← isOneOf [.colon, .comma, .question, .assign]) then return true
  if (← eat .parenClose) then is .arrow else return false

def functionType (g : Rules src) : Parser src Unit := do
  typeParameters? g .function
  expect .parenOpen
  let _ ← signatureParameters g
  resultType g .arrow

def typeMemberEnd : Parser src Unit := do
  if !(← eat .comma) then semicolon

def indexSignature? (g : Rules src) : Parser src Bool := do
  if !(← is .bracketOpen) then return false
  let isIndex ← lookahead do
    bump
    if (← atName) then
      bump
      isOneOf [.colon, .comma]
    else return false
  if !isIndex then return false
  bump
  let _ ← here
  let (start, _) ← anyWord
  let _ ← here
  if (← eat .comma) then report start (.rule "An index signature must have exactly one parameter")
  else expect .colon
  let _ ← typeHere g
  expect .bracketClose
  let _ ← annotation? g
  typeMemberEnd
  return true

def typeMemberKey (g : Rules src) : Parser src Unit := do
  if (← eat .bracketOpen) then
    let _ ← g .assignment
    expect .bracketClose
  else
    let t ← require
    match t.lexeme with
    | .number _ _ | .string _ _ =>
      let _ ← g .member
    | .symbol .hash =>
      let (start, _) ← privateName
      report start (.rule "private names are not allowed in interface")
    | _ =>
      let _ ← anyWord

/-- Parameters and result of a call signature or a method of an object type. -/
def signature (g : Rules src) : Parser src Unit := do
  typeParameters? g .function
  expect .parenOpen
  let _ ← signatureParameters g
  resultType? g
  typeMemberEnd

def typeAccessor? (g : Rules src) : Parser src Bool := do
  let found ← attempt do
    let _ ← here
    let _ ← modifier? ["readonly"]
    let getter ← eatWord "get"
    if !getter then expectWord "set"
    typeMemberKey g
    let _ ← eat .question
    expect .parenOpen
    if getter then
      expect .parenClose
      let _ ← annotation? g
    else
      let params ← signatureParameters g
      if params.isEmpty then fail (.rule "A setter must have one parameter")
    typeMemberEnd
    return some ()
  return found.isSome

def typeMember (g : Rules src) : Parser src Unit := do
  if (← isOneOf [.parenOpen, .less]) then signature g
  else
    let constructs ← do
      if (← isWord "new") then
        lookahead do
          bump
          isOneOf [.parenOpen, .less]
      else pure false
    if constructs then
      bump
      signature g
    else
      let _ ← here
      let readonly := (← modifier? ["readonly"]).isSome
      if (← indexSignature? g) then return ()
      if (← typeAccessor? g) then return ()
      typeMemberKey g
      let _ ← eat .question
      if ← pure !readonly <&&> isOneOf [.parenOpen, .less] then signature g
      else
        let _ ← annotation? g
        typeMemberEnd

def objectType (g : Rules src) : Parser src Unit := do
  expect .braceOpen
  loop () fun _ => do
    if (← is .braceClose) then return .done ()
    else
      typeMember g
      return .again ()
  expect .braceClose

/-- Whether a mapped type follows, seen from its brace. -/
def startsMappedType : Parser src Bool := do
  bump
  if ← eat .plus <||> eat .minus then isWord "readonly"
  else
    let _ ← eatWord "readonly"
    if !(← eat .bracketOpen) then return false
    if !(← atName) then return false
    bump
    isWord "in"

def mappedType (g : Rules src) : Parser src Unit := do
  expect .braceOpen
  if (← isOneOf [.plus, .minus]) then
    bump
    expectWord "readonly"
  else
    let _ ← eatWord "readonly"
  expect .bracketOpen
  let _ ← anyWord
  typeAfterWord g "in"
  if (← eatWord "as") then
    let _ ← g .type
  expect .bracketClose
  if (← isOneOf [.plus, .minus]) then
    bump
    expect .question
  else
    let _ ← eat .question
  let _ ← annotation? g
  semicolon
  expect .braceClose

/-- What an element of a tuple type asks for. -/
inductive TupleElement where
  | required
  | optional
  | rest
deriving DecidableEq

/-- One element of a tuple type. Its label says nothing about it. -/
def tupleElement (g : Rules src) : Parser src TupleElement := do
  let _ ← here
  let _ ← attempt do
    let _ ← here
    let _ ← eat .ellipsis
    let _ ← anyWord
    let _ ← eat .question
    expect .colon
    return some ()
  if ← eat .ellipsis then
    let _ ← g .type
    return .rest
  else
    let _ ← g .type
    return if ← eat .question then .optional else .required

/-- A tuple type. What is required cannot come after what is optional. -/
def tupleType (g : Rules src) : Parser src Unit := do
  let start ← here
  expect .bracketOpen
  let elements ← commaList (is .bracketClose) (tupleElement g)
  expect .bracketClose
  if (elements.dropWhile (· != .optional)).contains .required then
    failAt start (.rule "A required element cannot follow an optional element.")

def importType (g : Rules src) : Parser src Unit := do
  bump
  expect .parenOpen
  checkNext
  let _ ← next
  let t ← require
  bump
  match t.lexeme with
  | .string _ _ => pure ()
  | _ => report t.start (.rule "literal in an import type should be string literal")
  expect .parenClose
  if (← eat .dot) then entityName false
  if (← is .less) then typeArguments g

def typeQuery (g : Rules src) : Parser src Unit := do
  bump
  if (← isWord "import") then importType g else entityName true
  if ← notM startsLine <&&> is .less then innerTypeArguments g

/-- Keywords that are types by themselves. -/
def typeKeywords : List String :=
  ["void", "null", "any", "boolean", "bigint", "never", "number", "object", "string", "symbol",
    "unknown", "undefined", "intrinsic"]

/-- A named type with its arguments. Modifiers of parameters may stand in front of it. -/
def typeReference (g : Rules src) : Parser src Unit := do
  let start ← here
  let modified ← parameterModifier
  entityName true
  typeArguments? g
  if modified then report start .parameterProperty

/-- A type without brackets after it. -/
def primaryType (g : Rules src) : Parser src ParamType := do
  let _ ← here
  let t ← require
  match t.lexeme with
  | .word "true" | .word "false" =>
    bump
    return .unknown
  | .word "import" =>
    importType g
    return .unknown
  | .word "this" =>
    bump
    if ← notM startsLine <&&> isWord "is" then
      bump
      let _ ← typeHere g
    return .unknown
  | .word "typeof" =>
    typeQuery g
    return .unknown
  | .word name =>
    if isKeyword name && !(["void", "yield", "null", "await", "break"].contains name) then
      unexpected typeStarts
    else if ← pure (name == "asserts") <&&> peekIsWord "this" then
      bump
      bump
      if (← eatWord "is") then
        let _ ← typeHere g
      return .unknown
    else
      let dotted ← peekIs .dot
      if typeKeywords.contains name && !dotted then
        bump
        return ParamType.ofKeyword name
      else
        typeReference g
        return .unknown
  | .name _ =>
    typeReference g
    return .unknown
  | .bigint _ _ | .string _ _ | .number _ _ =>
    bump
    return .unknown
  | .symbol .backquote =>
    template false do
      let _ ← typeHere g
    return .unknown
  | .symbol .minus =>
    bump
    match (← require).lexeme with
    | .number _ _ | .bigint _ _ => bump
    | _ => unexpected "numeric literal or bigint literal"
    return .unknown
  | .symbol .braceOpen =>
    if (← lookahead startsMappedType) then mappedType g else objectType g
    return .unknown
  | .symbol .bracketOpen =>
    tupleType g
    return .unknown
  | .symbol .parenOpen =>
    bump
    let _ ← g .type
    expect .parenClose
    return .unknown
  | _ => unexpected typeStarts

def arrayType (g : Rules src) : Parser src ParamType := do
  let first ← primaryType g
  loop first fun type => do
    if ← notM startsLine <&&> eat .bracketOpen then
      if !(← eat .bracketClose) then
        let _ ← g .type
        expect .bracketClose
      return .again .unknown
    else return .done type

/-- A name that a conditional type infers, with its constraint. A question mark after what looks
like a constraint makes it the test of a conditional type, unless it can only belong to the type
around. -/
def inferredType (g : Rules src) : Parser src Unit := do
  bump
  let _ ← anyWord
  let _ ← attempt do
    expectWord "extends"
    let _ ← g .plainType
    if ← pure (← get).context.inExtends <||> notM (is .question) then return some ()
    else return none

def typeOperator (g : Rules src) : Parser src ParamType := do
  if (← isOneOfWords ["keyof", "unique", "readonly"]) then
    bump
    let _ ← g .typeOperator
    return .unknown
  else if (← isWord "infer") then
    inferredType g
    return .unknown
  else
    let _ ← require
    arrayType g

/-- Types with an operator between them, which may also stand in front of the first one. -/
def typeSeries (operator : Symbol) (one : Parser src ParamType) : Parser src ParamType := do
  let _ ← here
  let _ ← eat operator
  let first ← one
  loop first fun type => do
    if (← eat operator) then
      let _ ← one
      return .again .unknown
    else return .done type

def plainType (g : Rules src) : Parser src ParamType := do
  let isFunction ← do
    if (← is .less) then pure true
    else if (← is .parenOpen) then lookahead (startsFunctionType g)
    else pure false
  if isFunction then
    functionType g
    return .unknown
  else if ← (isWord "abstract" <&&> peekIsWord "new") <||> isWord "new" then
    let _ ← eatWord "abstract"
    expectWord "new"
    functionType g
    return .unknown
  else typeSeries .bar (typeSeries .ampersand (g .typeOperator))

/-- A type. All that is remembered of one is whether it is the keyword `number` or `string`, which a
leading bar or ampersand does not change. -/
def type (g : Rules src) : Parser src ParamType :=
  within (fun c => { c with inExtends := false }) do
    let _ ← here
    let t ← g .plainType
    if ← startsLine <||> notM (eatWord "extends") then return t
    else
      let _ ← within (fun c => { c with inExtends := true }) (g .plainType)
      expect .question
      let _ ← g .type
      expect .colon
      let _ ← g .type
      return .unknown

end TypeGuard.TypeScript.Parser

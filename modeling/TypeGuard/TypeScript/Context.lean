import TypeGuard.TypeScript.Fault

namespace TypeGuard.TypeScript

structure Context where
  inType : Bool := false
  /-- Inside an operand, where even types do not make angle brackets single signs. -/
  anglesWhole : Bool := false
  strict : Bool := false
  inFunction : Bool := false
  inAsync : Bool := false
  inGenerator : Bool := false
  inParameters : Bool := false
  inClass : Bool := false
  hasSuperclass : Bool := false
  /-- Inside the value of a property or a static block, where there are no arguments. -/
  inField : Bool := false
  inStaticBlock : Bool := false
  hasNewTarget : Bool := false
  inDeclare : Bool := false
  breakAllowed : Bool := false
  continueAllowed : Bool := false
  /-- Whether `in` is an operator here, as it is in expressions that stand by themselves. -/
  inAllowed : Bool := false
  inLoopHead : Bool := false
  inAwaitHead : Bool := false
  /-- In the part of a conditional type between `extends` and the question mark. -/
  inExtends : Bool := false
  inBranch : Bool := false
  /-- Inside the first branch of a conditional expression, which a colon ends. -/
  colonEnds : Bool := false
  trial : Bool := false

/-- Words that are never names, wherever they stand. -/
def isReservedWord (name : String) : Bool :=
  name == "break" || name == "case" || name == "catch" || name == "class" || name == "const" ||
  name == "continue" || name == "debugger" || name == "default" || name == "delete" ||
  name == "do" || name == "else" || name == "enum" || name == "export" || name == "extends" ||
  name == "false" || name == "finally" || name == "for" || name == "function" || name == "if" ||
  name == "import" || name == "in" || name == "instanceof" || name == "new" || name == "null" ||
  name == "return" || name == "super" || name == "switch" || name == "this" ||
  name == "throw" || name == "true" || name == "try" || name == "typeof" || name == "var" ||
  name == "void" || name == "while" || name == "with"

/-- Words of the language that the lexical grammar knows; all other words are names at first
sight. -/
def isKeyword (name : String) : Bool :=
  (isReservedWord name && name != "enum") || name == "await" || name == "yield" || name == "let"

/-- The name that a word stands for: one word is known by a wrong spelling only. -/
def nameOf (word : String) : String :=
  if word == "pacakge" then "package" else word

/-- Names that strict code keeps for later. -/
def isStrictlyReserved (name : String) : Bool :=
  name == "implements" || name == "package" || name == "protected" || name == "interface" ||
    name == "private" || name == "public"

/-- Words that the lexical grammar knows as such names. The right spelling of the misspelt one is
none of them. -/
def isStrictWord (word : String) : Bool :=
  word != "package" && isStrictlyReserved (nameOf word)

namespace Context

def singleAngles (c : Context) : Bool :=
  c.inType && !c.anglesWhole

def reserves (c : Context) (word : String) : Bool :=
  if word == "let" then c.strict
  else if word == "await" then c.inAsync || c.inStaticBlock || c.strict
  else if word == "yield" then c.inGenerator || c.strict
  else isReservedWord word || (c.strict && isStrictWord word)

/-- Whether a key cannot stand for a variable of the same name. -/
def reservesKey (c : Context) (name : String) : Bool :=
  name == "await" || (c.strict && isStrictlyReserved name) || c.reserves name

/-- Whether an error in a token is reported although it was found in a trial. -/
def keeps (c : Context) : Cause → Bool
  | .legacyComment => true
  | .legacyOctalStrict | .legacyDecimalStrict => !c.trial || !c.strict
  | _ => !c.trial

end Context

end TypeGuard.TypeScript

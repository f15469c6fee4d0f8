import TypeGuard.Guard.Declaration
import TypeGuard.TypeScript.Parser

namespace TypeGuard.TypeScript

variable {src : List Char}

/-- The brace that opens a body. -/
structure Brace (src : List Char) where
  /-- Where the body is said to start. -/
  start : Cursor src
  place : Cursor src
  start_le_place : start.offset ≤ place.offset
  sign : start.offset < place.offset → Scan.isLineSign start.rest
  opens : place.rest.head? = some '\x7b'

/-- Offset just past the start of the body: past the brace, unless a markup comment stands in front
of it. -/
def Brace.bodyStart (b : Brace src) : Nat :=
  b.start.offset + 1

/-- What is bound by a parameter or a declarator. -/
structure Binding (src : List Char) where
  start : Cursor src
  /-- The name, unless several are bound at once. -/
  name : Option String
  type : ParamType := .unknown
  annotated : Bool := false
  initialized : Bool := false
  isRest : Bool := false
  /-- Place of the modifier that makes a constructor parameter a property. -/
  property : Option (Cursor src) := none

/-- A parameter of a declaration: patterns have no name and no type of their own. -/
def Binding.param (b : Binding src) : Param :=
  match b.name with
  | some name => ⟨name, b.type⟩
  | none => ⟨"<pattern>", .unknown⟩

/-- Whether a parameter is a plain name, or declares a property. -/
def Binding.isSimple (b : Binding src) : Bool :=
  b.property.isSome || (b.name.isSome && !b.initialized)

/-- A function as far as it is reported. -/
structure Routine (src : List Char) where
  params : List (Binding src)
  /-- Overloads and ambient declarations have no body. -/
  body : Option (Brace src)

def Routine.function? (name : String) (r : Routine src) : Option FunctionDecl :=
  r.body.map fun b => ⟨name, r.params.map Binding.param, b.bodyStart⟩

/-- How a member of a class or an object is named. -/
inductive Key (src : List Char) where
  | name (start : Cursor src) (text : String)
  | string (start : Cursor src) (value : String)
  | computed (start : Cursor src)
  /-- A name that only the class itself can see. -/
  | hidden (start : Cursor src) (text : String)

namespace Key

def start : Key src → Cursor src
  | name c _ => c
  | string c _ => c
  | computed c => c
  | hidden c _ => c

def isConstructor : Key src → Bool
  | name _ text => text == "constructor"
  | string _ value => value == "constructor"
  | _ => false

def word? : Key src → Option String
  | name _ text => some text
  | _ => none

/-- The name under which a method is reported; private methods are not. -/
def method? : Key src → Option String
  | name _ text => some text
  | string _ value => some value
  | computed _ => some "<computed>"
  | hidden _ _ => none

end Key

structure Member (src : List Char) where
  start : Cursor src
  /-- Constructors, methods and accessors: the name to report them under and the function. -/
  method : Option (Option String × Routine src) := none
  isConstructor : Bool := false
  isAbstract : Bool := false

def Member.function? (m : Member src) : Option FunctionDecl := do
  let (name, routine) ← m.method
  routine.function? (← name)

/-- A statement as far as it is reported. -/
inductive Item (src : List Char) where
  | function (name : String) (routine : Routine src)
  | class_ (name : String) (members : List (Member src))
  | useStrict (start : Cursor src)
  | other

end TypeGuard.TypeScript

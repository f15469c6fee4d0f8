namespace TypeGuard

/-- The declared type of a parameter, as far as guards are concerned. -/
inductive ParamType where
  | number
  | string
  | unknown
deriving Repr, DecidableEq

namespace ParamType

def ofKeyword (keyword : String) : ParamType :=
  if keyword == "number" then number
  else if keyword == "string" then string
  else unknown

/-- What `typeof` gives for values of the type. -/
def name : ParamType → String
  | number => "number"
  | string => "string"
  | unknown => "unknown"

/-- The global function that turns a value into one of the type. -/
def constructor? : ParamType → Option String
  | number => some "Number"
  | string => some "String"
  | unknown => none

def isGuardable (t : ParamType) : Bool :=
  t != unknown

end ParamType

structure Param where
  name : String
  type : ParamType
deriving Repr, DecidableEq

/-- A function or method with a body; `bodyStart` is the offset just past the brace that opens
it. -/
structure FunctionDecl where
  name : String
  params : List Param
  bodyStart : Nat
deriving Repr, DecidableEq

/-- A class with its methods that have a body. -/
structure ClassDecl where
  name : String
  methods : List FunctionDecl
deriving Repr, DecidableEq

def FunctionDecl.guardedParams (f : FunctionDecl) : List Param :=
  f.params.filter fun p => p.type.isGuardable

structure Declarations where
  functions : List FunctionDecl := []
  classes : List ClassDecl := []
deriving Repr, DecidableEq

/-- All functions and methods: first the functions, then the methods class by class. -/
def Declarations.all (d : Declarations) : List FunctionDecl :=
  d.functions ++ d.classes.flatMap ClassDecl.methods

end TypeGuard

import TypeGuard.TypeScript.Tree

namespace TypeGuard.TypeScript

variable {src : List Char}

inductive Form where
  | name (text : String)
  /-- A string with its text as it is written. -/
  | string (raw : String)
  | literal
  | template
  | object
  | array
  | function
  | class_
  | arrow
  | assignment
  /-- An assignment that also computes something. -/
  | compound
  | call
  | member
  | superMember
  /-- A member or a call that is skipped if an object before it is missing. -/
  | chainMember
  | chainCall
  | created
  | createdWithoutArguments
  | parenthesized (inner : Form)
  | nonNull (inner : Form)
  | asserted
  | instantiation
  /-- An operation; `coalesced` says whether its left operand is an alternative to null. -/
  | binary (op : Symbol) (coalesced : Bool)
  | wordOperator
  | conditional
  /-- An operator in front of its operand. -/
  | signed
  | update
  | await
  | super
  | import_
  /-- Stands for an operand that could not be read. -/
  | missing
  | other
deriving DecidableEq

namespace Form

def bare : Form → Form
  | parenthesized inner => inner.bare
  | f => f

/-- Whether a member or a call of the expression is skipped if an object before it is missing. -/
def isChain : Form → Bool
  | chainMember | chainCall => true
  | nonNull inner => inner.isChain
  | _ => false

def isName : Form → Bool
  | name _ => true
  | _ => false

/-- Whether an expression that cannot be assigned to is refused twice as a target; not so literals
and operations, and calls only if `calls` says so. -/
def refused (calls : Bool) : Form → Bool
  | string _ | literal | binary _ _ | wordOperator => false
  | call => calls
  | parenthesized inner => inner.refused calls
  | _ => true

/-- Whether an expression is an element of a destructuring assignment if it can be assigned to. All
others look nothing like one. -/
def isElement : Form → Bool
  | name _ | string _ | literal | template | function | class_ | call | member | superMember
  | created | createdWithoutArguments | parenthesized _ | asserted => true
  | _ => false

end Form

/-- What is wrong with an expression as a pattern. -/
structure Verdict (src : List Char) where
  /-- Errors that do not stop the reading. -/
  faults : List (Fault src) := []
  /-- The error after these that does. -/
  refusal : Option (Fault src) := none

namespace Verdict

/-- One verdict after another, unless the first one stops the reading. -/
def andThen (v w : Verdict src) : Verdict src :=
  match v.refusal with
  | some _ => v
  | none => { faults := v.faults ++ w.faults, refusal := w.refusal }

def all (vs : List (Verdict src)) : Verdict src :=
  vs.foldl andThen {}

/-- A single error, found `n` times. -/
def wrong (place : Cursor src) (cause : Cause) (n : Nat := 1) : Verdict src :=
  { faults := List.replicate n { place, cause } }

def refuse (place : Cursor src) (cause : Cause) : Verdict src :=
  { refusal := some { place, cause } }

def wrongAt (place : Option (Cursor src)) (cause : Cause) : Verdict src :=
  match place with
  | some place => wrong place cause
  | none => {}

end Verdict

structure Expr (src : List Char) where
  start : Cursor src
  form : Form
  /-- Start of the expression inside all parentheses. -/
  core : Cursor src := start
  /-- Number of bytes in front of the start at which a missing operand is taken to be. -/
  back : Nat := 0
  /-- Whether the expression is a variable or a property, up to parentheses and type assertions. -/
  isTarget : Bool := false
  /-- Whether it is a variable that strict code cannot assign to. -/
  isRestricted : Bool := false
  /-- What is wrong with a literal as the left side of an assignment. -/
  asTarget : Verdict src := {}
  asBinding : Verdict src := {}
  /-- Names that it binds as a parameter and that strict code cannot bind. -/
  restricted : List (Cursor src) := []
  /-- Properties `a = 1` of an object literal. -/
  shorthands : List (Cursor src) := []

/-- Names that strict code can neither bind nor assign to. -/
def isRestricted (name : String) : Bool :=
  name == "eval" || name == "arguments"

namespace Expr

/-- An expression that is neither a target nor a parameter. -/
def plain (start : Cursor src) (form : Form) : Expr src where
  start := start
  form := form
  asBinding := .wrong start .notPattern

def target (start : Cursor src) (form : Form) : Expr src where
  start := start
  form := form
  isTarget := true
  asBinding := .wrong start .notPattern

def named (start : Cursor src) (text : String) : Expr src where
  start := start
  form := .name text
  isTarget := true
  isRestricted := TypeScript.isRestricted text
  restricted := if TypeScript.isRestricted text then [start] else []

/-- An operand that could not be read, `back` bytes in front of a place. -/
def missing (place : Cursor src) (back : Nat) : Expr src where
  start := place
  form := .missing
  back := back

/-- An expression that has the value of another one: in parentheses or with a type assertion. -/
def wrapped (start : Cursor src) (form : Form) (inner : Expr src) : Expr src where
  start := start
  form := form
  isTarget := inner.isTarget
  isRestricted := inner.isRestricted
  asBinding := .wrong start .notPattern

def parenthesized (start : Cursor src) (inner : Expr src) : Expr src :=
  { wrapped start (.parenthesized inner.form) inner with core := inner.core }

/-- Whether an expression is an arrow function, which no operator may follow. -/
def isArrow (e : Expr src) : Bool :=
  e.form == .arrow

def isValidTarget (strict : Bool) (e : Expr src) : Bool :=
  e.isTarget && !(strict && e.isRestricted)

def isRestrictedName (e : Expr src) : Bool :=
  match e.form with
  | .name text => TypeScript.isRestricted text
  | _ => false

/-- What is wrong with an expression that is changed. -/
def changed (strict calls : Bool) (e : Expr src) : Verdict src :=
  let valid := e.isValidTarget strict
  let first : Verdict src := if valid then {} else .wrong e.start .badAssignmentTarget
  first.andThen
    (if e.isRestrictedName then .wrong e.start .restrictedTarget
    else if !valid && e.form.refused calls then .wrong e.start .badAssignmentTarget else {})

/-- What is wrong with an expression as the left side of an assignment, or as the variable of a
loop. -/
def assigned (strict : Bool) (e : Expr src) : Verdict src :=
  match e.form with
  | .object | .array => e.asTarget
  | .missing => {}
  | _ => e.changed strict true

def element (strict : Bool) (e : Expr src) : Verdict src :=
  match e.form with
  | .object | .array => e.asTarget
  | .assignment | .missing => {}
  | .compound => .wrong e.start .notPattern
  | form =>
    if !form.isElement then .wrong e.start .notPattern 2
    else if e.isValidTarget strict then {}
    else .wrong e.start (.rule "Cannot assign to this")

/-- What is wrong with an initializer of the last element of a pattern, which takes all the rest
from `dots` on. -/
def restInitializer (dots : Cursor src) (e : Expr src) : Verdict src :=
  match e.form with
  | .assignment | .compound => .wrong dots .restInitializer
  | _ => {}

end Expr

end TypeGuard.TypeScript

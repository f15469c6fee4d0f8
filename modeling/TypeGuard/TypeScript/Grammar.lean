import TypeGuard.TypeScript.Expr

namespace TypeGuard.TypeScript

/-- Constructs that can contain themselves. A rule calls them through the rules it is given; the
knot is tied by counting down a depth that no source can exceed. -/
inductive Nonterminal (src : List Char) where
  | type
  /-- A type that is not a conditional one. -/
  | plainType
  /-- A type without unions and intersections at its top. -/
  | typeOperator
  | pattern
  | assignment
  | unary
  /-- The operators after a left operand that bind tighter than a precedence. -/
  | operators (left : Expr src) (precedence : Nat)
  | member
  | leftHandSide
  /-- What follows an operand; calls and indices are not read everywhere. -/
  | subscripts (object : Expr src) (calls indices : Bool)
  | statement (declarations topLevel : Bool)

/-- What is remembered of a nonterminal. -/
abbrev Nonterminal.Value {src : List Char} : Nonterminal src → Type
  | type | plainType | typeOperator => ParamType
  | pattern => Binding src
  | assignment | unary | operators _ _ | member | leftHandSide | subscripts _ _ _ => Expr src
  | statement _ _ => Item src

abbrev Rules (src : List Char) :=
  (n : Nonterminal src) → Parser src n.Value

end TypeGuard.TypeScript

import TypeGuard.TypeScript.Context
import TypeGuard.TypeScript.Symbol

namespace TypeGuard.TypeScript

inductive Level where
  | block
  | braces
  | parentheses
  /-- The parentheses after `if`, `with`, `while` or `for`. -/
  | head (isFor : Bool)
  | template
  | hole
  | function
  | class_
deriving Repr, DecidableEq

/-- Whether a level is an operand once it is closed. -/
def Level.isOperand : Level → Bool
  | block | head _ => false
  | _ => true

inductive TokenKind where
  | symbol (s : Symbol)
  | keyword (word : String)
  | name (text : String)
  | other
deriving Repr, DecidableEq

namespace TokenKind

/-- Keywords that an operand follows. -/
def operandWords : List String :=
  ["await", "case", "default", "do", "else", "return", "throw", "new", "extends", "yield", "in",
    "instanceof", "typeof", "void", "delete"]

/-- Symbols that no operand follows; the signs that close something are not asked about. -/
def closingSymbols : List Symbol :=
  [.parenClose, .braceClose, .bracketClose, .dot, .hash, .increment, .decrement, .backquote]

def beforeOperand : TokenKind → Bool
  | symbol s => !closingSymbols.contains s
  | keyword word => operandWords.contains word
  | name _ | other => false

end TokenKind

/-- The levels around a place, the innermost one first, and the last token. They tell whether a
template goes on after a closing brace. -/
structure Nesting where
  levels : List Level := [.block]
  operandNext : Bool := true
  last : Option TokenKind := none
  lastStartsLine : Bool := false

namespace Nesting

/-- Whether a brace that comes next opens a block; `startsLine` says whether a line ends in front
of it. -/
def opensBlock (n : Nesting) (startsLine : Bool) : Bool :=
  let top := n.levels.head?
  match n.last with
  | some (.symbol .colon) =>
    if top == some .block then true
    else if top == some .braces then false
    else !n.operandNext
  | some (.keyword "return") | some (.keyword "yield") => startsLine
  | none | some (.keyword "else") | some (.symbol .semicolon) | some (.symbol .parenClose) => true
  | some (.symbol .braceOpen) => top == some .block
  | some (.symbol .less) | some (.symbol .greater) | some (.symbol .arrow) => true
  | _ => !n.operandNext

/-- The levels after a closing brace or parenthesis, and whether an operand can follow. The level
around everything stays. -/
def close : List Level → List Level × Bool
  | [] => ([], true)
  | [level] => ([level], true)
  | .block :: .function :: rest => (rest, false)
  | .block :: .class_ :: rest => (rest, false)
  | .hole :: rest => (rest, rest.head? != some .template)
  | level :: rest => (rest, !level.isOperand)

def parenthesis (n : Nesting) : Level :=
  match n.last with
  | some (.keyword "if") | some (.keyword "with") | some (.keyword "while") => .head false
  | some (.keyword "for") => .head true
  | _ => .parentheses

/-- The levels after a keyword. A function or a class is a level if it is an operand. -/
def keyword (n : Nesting) (word : String) (startsLine : Bool) : List Level × Bool :=
  let isOperand := n.operandNext && !n.opensBlock startsLine
  if n.last == some (.symbol .dot) then (n.levels, false)
  else if word == "function" then
    (if isOperand then .function :: n.levels else n.levels, false)
  else if word == "class" then (if isOperand then .class_ :: n.levels else n.levels, false)
  else (n.levels, (TokenKind.keyword word).beforeOperand)

/-- The levels after a symbol. A colon shows that the word in front of it was a key and began no
function or class. -/
def symbol (n : Nesting) (s : Symbol) (startsLine : Bool) : List Level × Bool :=
  match s with
  | .parenClose | .braceClose => close n.levels
  | .braceOpen => ((if n.opensBlock startsLine then .block else .braces) :: n.levels, true)
  | .parenOpen => (n.parenthesis :: n.levels, true)
  | .increment | .decrement => (n.levels, n.operandNext)
  | .colon =>
    match n.levels with
    | .function :: rest | .class_ :: rest => (rest, true)
    | levels => (levels, true)
  | .backquote =>
    match n.levels with
    | .template :: rest => (rest, false)
    | levels => (.template :: levels, false)
  | s => (n.levels, (TokenKind.symbol s).beforeOperand)

/-- The levels after a name. In the head of a loop `of` lets an operand follow a name. -/
def name (n : Nesting) (text : String) : List Level × Bool :=
  match n.last with
  | some last =>
    if text == "of" && n.levels.head? == some (.head true) then (n.levels, !last.beforeOperand)
    else
      (n.levels, n.lastStartsLine &&
        [TokenKind.keyword "let", .keyword "const", .keyword "var"].contains last)
  | none => (n.levels, false)

def after (n : Nesting) (kind : TokenKind) (startsLine : Bool) : Nesting :=
  let (levels, operandNext) := match kind with
    | .symbol s => n.symbol s startsLine
    | .keyword word => n.keyword word startsLine
    | .name text => n.name text
    | .other => (n.levels, false)
  { levels, operandNext, last := some kind, lastStartsLine := startsLine }

/-- The nesting inside a hole of a template that has just been opened. -/
def inHole (n : Nesting) : Nesting :=
  { levels := .hole :: n.levels, operandNext := true, last := some .other }

def inTemplate (n : Nesting) : Bool :=
  n.levels.head? == some .template

/-- Only the level around everything, as type arguments see it. -/
def outermost (n : Nesting) : Nesting :=
  { n with levels := n.levels.getLast?.toList }

end Nesting

end TypeGuard.TypeScript

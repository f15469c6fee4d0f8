import TypeGuard.TypeScript.Module

namespace TypeGuard.TypeScript

variable {src : List Char}

/-- The rule of each nonterminal, over rules for the constructs inside. -/
def rule (g : Rules src) : Rules src
  | .type => Parser.type g
  | .plainType => Parser.plainType g
  | .typeOperator => Parser.typeOperator g
  | .pattern => Parser.pattern g
  | .assignment => Parser.assignmentExpression g
  | .unary => Parser.unary g
  | .operators left precedence => Parser.operators g left precedence
  | .member => Parser.memberExpression g
  | .leftHandSide => Parser.leftHandSide g
  | .subscripts object calls indices => Parser.subscripts g object calls indices
  | .statement declarations topLevel => Parser.item g declarations topLevel

/-- The grammar down to a depth. -/
def grammar : Nat → Rules src
  | 0, _ => Parser.fail .nestingLimit
  | depth + 1, n => rule (grammar depth) n

/-- A depth that no construct of the source exceeds. -/
def depthOf (src : List Char) : Nat :=
  8 * (src.length + 4)

def Parser.items (g : Rules src) : Parser src (List (Item src)) := do
  loop (([] : List (Item src)), true) fun (found, directives) => do
    let _ ← next
    if ← atEnd then return .done found.reverse
    else
      let i ← item g true true
      if directives then
        match i with
        | .useStrict _ => modifyContext fun c => { c with strict := true }
        | _ => pure ()
      return .again (i :: found, false)

def functionsOf (items : List (Item src)) : List FunctionDecl :=
  items.filterMap fun
    | .function name r => r.function? name
    | _ => none

/-- The classes among the statements of a source, with their methods that have a body. -/
def classesOf (items : List (Item src)) : List ClassDecl :=
  items.filterMap fun
    | .class_ name members => some ⟨name, members.filterMap Member.function?⟩
    | _ => none

structure Reading (src : List Char) where
  declarations : Declarations
  /-- Errors that did not stop the reading, in the order in which they were found. -/
  faults : List (Fault src)

def read (src : List Char) : Except (Fault src) (Reading src) :=
  match (Parser.items (grammar (depthOf src))).run (State.initial src) with
  | .value items s => .ok ⟨⟨functionsOf items, classesOf items⟩, s.reported.reverse⟩
  | .failure f _ => .error f

end TypeGuard.TypeScript

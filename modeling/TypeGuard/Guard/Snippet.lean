import TypeGuard.Guard.Declaration
import TypeGuard.Guard.Mode
import TypeGuard.Guard.Patch
import TypeGuard.Text.Utf8

namespace TypeGuard

/-- A template literal that says which type a parameter should have and which it has. -/
def Param.mismatch (p : Param) : String :=
  "`" ++ p.name ++ " isn't of type " ++ p.type.name ++ " but of type $\x7btypeof " ++ p.name ++
    "\x7d`"

/-- What a guard does when the test fails; `constructor` converts to the declared type. -/
def Param.reaction (p : Param) (constructor : String) : Mode → String
  | .warning => "console.warn(" ++ p.mismatch ++ ");"
  | .error => "throw " ++ p.mismatch ++ ";"
  | .fix =>
    "console.warn(" ++ p.mismatch ++ ",\" and was casted\"); " ++ p.name ++ " = " ++ constructor ++
      "(" ++ p.name ++ ");"

def Param.guard? (p : Param) (mode : Mode) : Option String :=
  p.type.constructor?.map fun constructor =>
    "\n    if(typeof " ++ p.name ++ " !== '" ++ p.type.name ++ "')\x7b\n    " ++
      p.reaction constructor mode ++ "\n    \x7d\n    "

/-- One patch for each guarded parameter, all where the body starts. -/
def FunctionDecl.patches (f : FunctionDecl) (mode : Mode) : List Patch :=
  (f.guardedParams.filterMap (Param.guard? · mode)).map fun text =>
    ⟨f.bodyStart, Utf8.ofString text⟩

def ClassDecl.patches (c : ClassDecl) (mode : Mode) : List Patch :=
  c.methods.flatMap (FunctionDecl.patches · mode)

end TypeGuard

namespace TypeGuard

inductive Mode where
  | warning
  | error
  /-- Logs a warning, converts the value and assigns it back. -/
  | fix
deriving Repr, DecidableEq

namespace Mode

def name : Mode → String
  | warning => "warning"
  | error => "error"
  | fix => "fix"

def ofName? (s : String) : Option Mode :=
  if s == "warning" then some warning
  else if s == "error" then some error
  else if s == "fix" then some fix
  else none

end Mode

end TypeGuard

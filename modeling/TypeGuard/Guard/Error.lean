import TypeGuard.Text.Quoted

namespace TypeGuard

inductive GuardError where
  | invalidMode (text : String)
  /-- A patch lies past the end of a source of `length` bytes. -/
  | offsetOutOfBounds (offset length : Nat)
  | tooManyPatches (count limit : Nat)
  | outsideInputRoot (path : String)
  | invalidConfig (reason : String)
  | parse (offset : Nat) (message : String)
  | sourceTooLarge (length : Nat)
deriving Repr, DecidableEq

namespace GuardError

def message : GuardError → String
  | invalidMode text =>
    "Invalid patch mode: " ++ Text.quoted text ++ " (expected warning, error or fix)"
  | offsetOutOfBounds offset length =>
    "Patch offset " ++ toString offset ++ " is out of bounds for source of " ++ toString length ++
      " bytes"
  | tooManyPatches count limit => "Too many patches: " ++ toString count ++ " > " ++ toString limit
  | outsideInputRoot path => "Path " ++ Text.quoted path ++ " is outside the input root"
  | invalidConfig reason => "Invalid configuration: " ++ reason
  | parse offset message => "Parse error at byte " ++ toString offset ++ ": " ++ message
  | sourceTooLarge length =>
    "Source of " ++ toString length ++ " bytes exceeds the parser limit"

end GuardError

end TypeGuard

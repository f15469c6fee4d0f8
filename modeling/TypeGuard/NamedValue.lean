import TypeGuard.Text.Lowercase

namespace TypeGuard

structure NamedValue where
  name : String
deriving Repr, DecidableEq

/-- The lowercase form of a text. It depends on the text alone: the name of the value is lowered
only if it is passed. -/
def NamedValue.lowered (_ : NamedValue) (text : String) : String :=
  Text.lowercase text

end TypeGuard

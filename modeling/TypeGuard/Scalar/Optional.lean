namespace TypeGuard.Scalar

/-- The sum of two operands. Without the first it is zero, whatever the second is; without the
second it is the first. -/
def addMaybe {α : Type} [Add α] [OfNat α 0] : Option α → Option α → α
  | none, _ => 0
  | some a, none => a
  | some a, some b => a + b

def absentText : String := "d"

/-- Two texts one after the other, with `absent` for the first if it is absent. -/
def concatenateWith (absent : String) (a : Option String) (b : String) : String :=
  a.getD absent ++ b

def concatenate (a : Option String) (b : String) : String :=
  concatenateWith absentText a b

end TypeGuard.Scalar

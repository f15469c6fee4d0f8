namespace TypeGuard.Scalar

/-- A range of integers that starts at zero or lies around it. -/
structure IntegerRange where
  signed : Bool
  bits : Nat
deriving Repr, DecidableEq

namespace IntegerRange

def least (r : IntegerRange) : Int :=
  if r.signed then -Int.ofNat (1 <<< (r.bits - 1)) else 0

def bound (r : IntegerRange) : Int :=
  if r.signed then Int.ofNat (1 <<< (r.bits - 1)) else Int.ofNat (1 <<< r.bits)

/-- The number that decimal digits stand for. There is at least one digit. -/
def digits? : List Char → Option Nat
  | [] => none
  | cs => cs.foldlM (fun n c => if c.isDigit then some (10 * n + (c.toNat - 48)) else none) 0

/-- Reads an integer: a sign, where the minus sign needs a signed range, and digits. -/
def read? (r : IntegerRange) (s : String) : Option Int := do
  let n : Int ← match s.toList with
    | '+' :: cs => (digits? cs).map Int.ofNat
    | '-' :: cs => if r.signed then (digits? cs).map fun n => -Int.ofNat n else none
    | cs => (digits? cs).map Int.ofNat
  if r.least ≤ n ∧ n < r.bound then return n else failure

end IntegerRange

end TypeGuard.Scalar

namespace TypeGuard.Json

/-- A number as it is written, without its sign. -/
structure Numeral where
  whole : List Char
  fraction : List Char := []
  /-- The power of ten that the number is multiplied by. -/
  exponent : Option Int := none
deriving Repr, DecidableEq

namespace Numeral

def digitValue (c : Char) : Nat :=
  c.toNat - 48

def valueOf (ds : List Char) : Nat :=
  ds.foldl (fun n c => 10 * n + digitValue c) 0

def isIntegral (n : Numeral) : Bool :=
  n.fraction.isEmpty && n.exponent.isNone

/-- Appends digits to a number up to the first one that would take it past 64 bits. Gives the
number and the digits that are left out. -/
def absorb (m : Nat) : List Char → Nat × List Char
  | [] => (m, [])
  | d :: ds =>
    if 10 * m + digitValue d < Nat.pow 2 64 then absorb (10 * m + digitValue d) ds else (m, d :: ds)

/-- The coefficient of a number and the power of ten that scales it. Every digit of the whole part
that is left out adds to the power, every digit of the fraction that is taken lowers it. -/
def scaled (n : Numeral) : Nat × Int :=
  let (m, omitted) := absorb 0 n.whole
  let (m, rest) := absorb m n.fraction
  let taken := n.fraction.length - rest.length
  (m, (omitted.length : Int) - taken + n.exponent.getD 0)

/-- The nearest number of at most 53 significant bits. A tie goes to the even one. -/
def rounded (n : Nat) : Nat :=
  let unit := Nat.pow 2 (n.log2 - 52)
  let q := n / unit
  let r := n % unit
  if unit < 2 * r ∨ unit = 2 * r ∧ q % 2 = 1 then (q + 1) * unit else q * unit

/-- Whether a number is too large for a double. No larger power of ten than the 308th is at
hand. -/
def isTooLarge (n : Numeral) : Bool :=
  let (m, scale) := n.scaled
  m ≠ 0 && 0 < scale &&
    (308 < scale ||
      Nat.pow 2 1024 ≤ rounded (rounded m * rounded (Nat.pow 10 scale.toNat)))

end Numeral

end TypeGuard.Json

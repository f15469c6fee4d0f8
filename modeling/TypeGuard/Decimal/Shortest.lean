namespace TypeGuard.Decimal

/-- The dyadic number `significand · 2 ^ exponent`. -/
structure Dyadic where
  significand : Nat
  exponent : Int
deriving Repr, DecidableEq

/-- Quotient to the nearest integer, a half to the even neighbour. -/
def roundQuotient (num den : Nat) : Nat :=
  let low := num / den
  let twice := 2 * (num % den)
  if twice < den then low
  else if den < twice then low + 1
  else if low % 2 == 0 then low else low + 1

/-- Numerator and denominator of `num / den` scaled by `base ^ e`. -/
def scaled (base num den : Nat) (e : Int) : Nat × Nat :=
  if 0 ≤ e then (num * Nat.pow base e.toNat, den) else (num, den * Nat.pow base (-e).toNat)

/-- The double nearest to the fraction `num / den`. -/
def nearest (num den : Nat) : Dyadic :=
  if num == 0 then ⟨0, 0⟩
  else
    let guess : Int := max ((Nat.log2 num : Int) - Nat.log2 den - 53) (-1074)
    let rounded (e : Int) :=
      let (n, d) := scaled 2 num den (-e)
      roundQuotient n d
    if rounded guess < 0x20000000000000 then ⟨rounded guess, guess⟩
    else ⟨rounded (guess + 1), guess + 1⟩

def Dyadic.same (a b : Dyadic) : Bool :=
  if a.exponent ≤ b.exponent then
    a.significand == b.significand * Nat.pow 2 (b.exponent - a.exponent).toNat
  else b.significand == a.significand * Nat.pow 2 (a.exponent - b.exponent).toNat

/-- Number of digits before the decimal point; for a fraction below one, minus the number of
zeros that follow the point. -/
def magnitude (num den : Nat) : Int :=
  if den ≤ num then ((Nat.toDigits 10 (num / den)).length : Int)
  else
    let zeros := (List.range 400).takeWhile fun z => num * Nat.pow 10 (z + 1) < den
    Int.negOfNat zeros.length

/-- A decimal `digits · 10 ^ exponent` with `count` digits that reads back as `v`, the nearer one
of two. -/
def withDigits? (v : Dyadic) (count : Nat) : Option (Nat × Int) :=
  let (num, den) := scaled 2 v.significand 1 v.exponent
  let e := magnitude num den - count
  let (n, d) := scaled 10 num den (-e)
  let reads (c : Nat) : Bool :=
    let (cn, cd) := scaled 10 c 1 e
    (nearest cn cd).same v
  let low := n / d
  let lowFirst := 2 * (n % d) ≤ d
  if lowFirst && reads low then some (low, e)
  else if reads (low + 1) then some (low + 1, e)
  else if reads low then some (low, e)
  else none

def positional (digits : List Char) (e : Int) : List Char :=
  if 0 ≤ e then digits ++ List.replicate e.toNat '0'
  else
    let places := (-e).toNat
    if digits.length ≤ places then
      ['0', '.'] ++ List.replicate (places - digits.length) '0' ++ digits
    else digits.take (digits.length - places) ++ '.' :: digits.drop (digits.length - places)

/-- Text of the double nearest to `num / den`: the fewest digits that read back as it. -/
def shortest (num den : Nat) : String :=
  let v := nearest num den
  if v.significand == 0 then "0"
  else if Nat.pow 2 1024 ≤ v.significand * Nat.pow 2 v.exponent.toNat then "inf"
  else match (List.range 17).findSome? fun k => withDigits? v (k + 1) with
    | none => "0"
    | some (c, e) =>
      let digits := Nat.toDigits 10 c
      let zeros := (digits.reverse.takeWhile (· == '0')).length
      String.ofList (positional (digits.take (digits.length - zeros)) (e + zeros))

end TypeGuard.Decimal

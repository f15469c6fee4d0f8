import Mathlib.Algebra.Field.Rat
import Mathlib.Algebra.GroupWithZero.Basic
import Mathlib.Tactic.NormNum
import TypeGuard.Scalar.Widening

namespace TypeGuard.Scalar

/-- The sizes of the parts of a bit pattern. -/
structure Format where
  exponentBits : Nat
  fractionBits : Nat
deriving Repr, DecidableEq

def narrowFormat : Format := ⟨8, 23⟩

def wideFormat : Format := ⟨11, 52⟩

/-- What a bit pattern denotes. Both zeros have the value zero and differ in their sign. -/
inductive Datum
  | notNumber
  | infinite (negative : Bool)
  | finite (negative : Bool) (value : ℚ)

/-- The quotient rounded to the nearest number, from half way between two to the even one. -/
def roundedQuotient (n d : Nat) : Nat :=
  if 2 * (n % d) < d ∨ 2 * (n % d) = d ∧ n / d % 2 = 0 then n / d else n / d + 1

namespace Format

variable (F : Format) {f : Fields} {m : Nat} {k : Int}

def fields (bits : Nat) : Fields where
  negative := 2 ^ (F.exponentBits + F.fractionBits) ≤ bits
  exponent := bits / 2 ^ F.fractionBits % 2 ^ F.exponentBits
  fraction := bits % 2 ^ F.fractionBits

/-- The exponent of infinities and of what is no number. -/
def top : Nat := 2 ^ F.exponentBits - 1

/-- Parts that have their place in a bit pattern. -/
structure Fits (f : Fields) : Prop where
  exponent_le : f.exponent ≤ F.top
  fraction_lt : f.fraction < 2 ^ F.fractionBits

/-- The smallest positive number is two to this power. -/
def least : Int := 2 - 2 ^ (F.exponentBits - 1) - F.fractionBits

/-- A normal number has a leading bit that is not written. -/
def significand (f : Fields) : Nat :=
  if f.exponent = 0 then f.fraction else 2 ^ F.fractionBits + f.fraction

/-- The power of two that the last bit of the significand counts. Numbers below the normal range
have that of the smallest normal ones. -/
def scale (f : Fields) : Int := F.least + (f.exponent - 1 : Nat)

def value (f : Fields) : ℚ :=
  (if f.negative then -1 else 1) * (F.significand f * 2 ^ F.scale f)

def datum (f : Fields) : Datum :=
  if f.exponent = F.top then if f.fraction = 0 then .infinite f.negative else .notNumber
  else .finite f.negative (F.value f)

def denotes (bits : Nat) : Datum := F.datum (F.fields bits)

/-- Exponent and fraction, as one number, of the number of the format that is nearest to
`m * 2 ^ k`. The last bit counts `place`, so that the significand fills its bits if the exponent is
not at its least; one that is rounded up to a further bit carries into the exponent. What lies past
the range becomes an infinity. -/
def nearest (m : Nat) (k : Int) : Nat :=
  let place := max F.least (k + m.log2 - F.fractionBits)
  let rounded := roundedQuotient (m * 2 ^ (k - place).toNat) (2 ^ (place - k).toNat)
  if m = 0 then 0
  else min ((place - F.least).toNat * 2 ^ F.fractionBits + rounded) (F.top * 2 ^ F.fractionBits)

theorem fits_fields (bits : Nat) : F.Fits (F.fields bits) where
  exponent_le := Nat.le_sub_one_of_lt (Nat.mod_lt _ (Nat.two_pow_pos _))
  fraction_lt := Nat.mod_lt _ (Nat.two_pow_pos _)

variable {F}

theorem significand_of_zero (h : f.exponent = 0) : F.significand f = f.fraction := if_pos h

theorem significand_of_ne (h : f.exponent ≠ 0) :
    F.significand f = 2 ^ F.fractionBits + f.fraction := if_neg h

theorem significand_eq_zero_iff : F.significand f = 0 ↔ f.exponent = 0 ∧ f.fraction = 0 := by
  have hpos : 0 < 2 ^ F.fractionBits := Nat.two_pow_pos _
  by_cases h : f.exponent = 0
  · rw [significand_of_zero h]
    exact (and_iff_right h).symm
  · rw [significand_of_ne h]
    exact iff_of_false (by omega) fun hzero => h hzero.1

theorem max_least_eq_scale (h : F.Fits f) (hs : F.significand f ≠ 0) :
    max F.least (F.scale f + (F.significand f).log2 - F.fractionBits) = F.scale f := by
  have hlt := h.fraction_lt
  by_cases he : f.exponent = 0
  · have hlog : (F.significand f).log2 < F.fractionBits := by
      rw [Nat.log2_lt hs, significand_of_zero he]
      exact hlt
    rw [scale, he]
    omega
  · have hlog : (F.significand f).log2 = F.fractionBits := by
      rw [Nat.log2_eq_iff hs, significand_of_ne he, Nat.pow_succ]
      omega
    rw [scale, hlog]
    omega

theorem pattern_eq (f : Fields) :
    (F.scale f - F.least).toNat * 2 ^ F.fractionBits + F.significand f =
      f.exponent * 2 ^ F.fractionBits + f.fraction := by
  rw [scale, add_sub_cancel_left, Int.toNat_natCast]
  by_cases he : f.exponent = 0
  · rw [significand_of_zero he, he]
  · obtain ⟨e, he'⟩ := Nat.exists_eq_succ_of_ne_zero he
    rw [significand_of_ne he, he', Nat.succ_sub_one, Nat.succ_mul, Nat.add_assoc]

theorem pattern_le (h : F.Fits f) (he : f.exponent ≠ F.top) :
    f.exponent * 2 ^ F.fractionBits + f.fraction ≤ F.top * 2 ^ F.fractionBits := by
  have hlt : f.exponent + 1 ≤ F.top := Nat.lt_of_le_of_ne h.exponent_le he
  have hmul := Nat.mul_le_mul_right (2 ^ F.fractionBits) hlt
  rw [Nat.succ_mul] at hmul
  have := h.fraction_lt
  omega

end Format

theorem roundedQuotient_mul (n : Nat) {d : Nat} (hd : 0 < d) : roundedQuotient (n * d) d = n := by
  rw [roundedQuotient, Nat.mul_mod_left, Nat.mul_div_cancel n hd, if_pos (.inl hd)]

theorem mul_two_pow_toNat_eq {m n : Nat} {k l : Int} (h : (m : ℚ) * 2 ^ k = n * 2 ^ l) :
    m * 2 ^ (k - l).toNat = n * 2 ^ (l - k).toNat := by
  have hcast : (m : ℚ) * 2 ^ (k - l).toNat = n * 2 ^ (l - k).toNat := calc
    (m : ℚ) * 2 ^ (k - l).toNat = m * 2 ^ k * 2 ^ ((l - k).toNat - l) := by
      rw [mul_assoc, ← zpow_add₀ two_ne_zero, ← zpow_natCast]
      congr 2
      omega
    _ = n * 2 ^ l * 2 ^ ((l - k).toNat - l) := by rw [h]
    _ = n * 2 ^ (l - k).toNat := by
      rw [mul_assoc, ← zpow_add₀ two_ne_zero, ← zpow_natCast]
      congr 2
      omega
  exact_mod_cast hcast

theorem log2_mul_two_pow {n : Nat} (hn : n ≠ 0) (k : Nat) : (n * 2 ^ k).log2 = n.log2 + k := by
  induction k with
  | zero => rw [Nat.pow_zero, Nat.mul_one, Nat.add_zero]
  | succ k ih =>
    have hne : n * 2 ^ k ≠ 0 := Nat.mul_ne_zero hn (Nat.two_pow_pos k).ne'
    rw [Nat.pow_succ, ← Nat.mul_assoc, Nat.mul_comm _ 2, Nat.log2_two_mul hne, ih, Nat.add_assoc]

/-- A number of the format is its own nearest one. -/
theorem Format.nearest_of_eq {F : Format} {f : Fields} {m : Nat} {k : Int} (h : F.Fits f)
    (he : f.exponent ≠ F.top) (hm : (m : ℚ) * 2 ^ k = F.significand f * 2 ^ F.scale f) :
    F.nearest m k = f.exponent * 2 ^ F.fractionBits + f.fraction := by
  have hcross := mul_two_pow_toNat_eq hm
  by_cases hs : F.significand f = 0
  · have hzero : m = 0 := by simpa [hs] using hcross
    obtain ⟨hexponent, hfraction⟩ := significand_eq_zero_iff.1 hs
    rw [nearest, if_pos hzero, hexponent, hfraction, Nat.zero_mul]
  · have hne : m ≠ 0 := by
      rintro rfl
      exact hs (by simpa using hcross.symm)
    have hlog : k + m.log2 = F.scale f + (F.significand f).log2 := by
      have := congrArg Nat.log2 hcross
      rw [log2_mul_two_pow hne, log2_mul_two_pow hs] at this
      omega
    rw [nearest, if_neg hne, hlog, max_least_eq_scale h hs, hcross,
      roundedQuotient_mul _ (Nat.two_pow_pos _), pattern_eq]
    exact Nat.min_eq_left (pattern_le h he)

end TypeGuard.Scalar

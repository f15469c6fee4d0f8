namespace TypeGuard.Scalar

/-- A bit pattern split into sign, biased exponent and fraction: 8 bits of exponent and 23 of
fraction in the narrow format, 11 and 52 in the wide one. -/
structure Fields where
  negative : Bool
  exponent : Nat
  fraction : Nat
deriving Repr, DecidableEq

def fieldsOfNarrow (bits : UInt32) : Fields :=
  ⟨0x80000000 ≤ bits.toNat, bits.toNat / 0x800000 % 0x100, bits.toNat % 0x800000⟩

def wideOfFields (f : Fields) : UInt64 :=
  UInt64.ofNat
    ((if f.negative then 0x8000000000000000 else 0) + f.exponent * 0x10000000000000 + f.fraction)

/-- The parts of a narrow number in the wide format. An infinity stays one, and so does a number
that is none, which is quiet afterwards. A number below the normal range of the narrow format is
normal in the wide one: its leading bit becomes implicit. -/
def Fields.widen (f : Fields) : Fields :=
  if f.exponent = 255 then
    { f with
      exponent := 2047
      fraction := if f.fraction = 0 then 0 else (f.fraction ||| 0x400000) * 0x20000000 }
  else if f.exponent = 0 then
    if f.fraction = 0 then f
    else
      let top := f.fraction.log2
      { f with exponent := 874 + top, fraction := (f.fraction - Nat.pow 2 top) * Nat.pow 2 (52 - top) }
  else { f with exponent := f.exponent + 896, fraction := f.fraction * 0x20000000 }

def widen (bits : UInt32) : UInt64 :=
  wideOfFields (fieldsOfNarrow bits).widen

def widenAll (values : List UInt32) : List UInt64 :=
  values.map widen

end TypeGuard.Scalar

import TypeGuard.Proofs.Formats

namespace TypeGuard.Scalar

/-- The narrow bit pattern nearest to a wide number. What is no number stays so, without its
payload. -/
def narrow (bits : UInt64) : UInt32 :=
  let f := wideFormat.fields bits.toNat
  let magnitude :=
    if f.exponent = wideFormat.top then if f.fraction = 0 then 0x7F800000 else 0x7FC00000
    else narrowFormat.nearest (wideFormat.significand f) (wideFormat.scale f)
  UInt32.ofNat ((if f.negative then 0x80000000 else 0) + magnitude)

variable {F G : Format} {f g : Fields}

theorem fieldsOfNarrow_eq (bits : UInt32) :
    fieldsOfNarrow bits = narrowFormat.fields bits.toNat := rfl

theorem fields_wideOfFields (h : wideFormat.Fits f) :
    wideFormat.fields (wideOfFields f).toNat = f := by
  obtain ⟨negative, exponent, fraction⟩ := f
  obtain ⟨hexponent, hfraction⟩ := h
  simp only [Format.top, wideFormat, Nat.reducePow, Nat.reduceSub] at hexponent hfraction
  cases negative <;>
    simp only [wideOfFields, Format.fields, wideFormat, UInt64.toNat_ofNat', Nat.reducePow,
      Nat.reduceAdd, Fields.mk.injEq, decide_eq_false_iff_not, decide_eq_true_eq, ↓reduceIte,
      Bool.false_eq_true] <;>
    omega

theorem log2_fraction_le (h : narrowFormat.Fits f) (hf : f.fraction ≠ 0) :
    f.fraction.log2 ≤ 22 :=
  Nat.le_of_lt_succ ((Nat.log2_lt hf).2 h.fraction_lt)

theorem sub_two_pow_log2_mul (h : narrowFormat.Fits f) (hf : f.fraction ≠ 0) :
    (f.fraction - 2 ^ f.fraction.log2) * 2 ^ (52 - f.fraction.log2) + 2 ^ 52 =
      f.fraction * 2 ^ (52 - f.fraction.log2) := by
  have hlog := log2_fraction_le h hf
  have hpow : 2 ^ f.fraction.log2 * 2 ^ (52 - f.fraction.log2) = 2 ^ 52 := by
    rw [← Nat.pow_add, Nat.add_sub_cancel' (by omega)]
  rw [Nat.sub_mul, hpow]
  apply Nat.sub_add_cancel
  rw [← hpow]
  exact Nat.mul_le_mul_right _ (Nat.log2_self_le hf)

theorem fraction_mul_lt (h : narrowFormat.Fits f) (hf : f.fraction ≠ 0) :
    f.fraction * 2 ^ (52 - f.fraction.log2) < 2 ^ 53 := by
  have hlog := log2_fraction_le h hf
  have hpow : 2 ^ (f.fraction.log2 + 1) * 2 ^ (52 - f.fraction.log2) = 2 ^ 53 := by
    rw [← Nat.pow_add]
    congr 1
    omega
  rw [← hpow]
  exact Nat.mul_lt_mul_of_pos_right Nat.lt_log2_self (Nat.two_pow_pos _)

theorem Fields.fits_widen (h : narrowFormat.Fits f) : wideFormat.Fits f.widen := by
  have hexponent : f.exponent ≤ 255 := h.exponent_le
  have hfraction : f.fraction < 2 ^ 23 := h.fraction_lt
  suffices f.widen.exponent ≤ 2047 ∧ f.widen.fraction < 2 ^ 52 from ⟨this.1, this.2⟩
  unfold Fields.widen
  split
  case isTrue =>
    have hquiet : f.fraction ||| 0x400000 < 2 ^ 23 := Nat.or_lt_two_pow hfraction (by decide)
    refine ⟨Nat.le_refl _, ?_⟩
    dsimp only
    split <;> omega
  case isFalse =>
    split
    case isTrue =>
      split
      case isTrue hf => exact ⟨by omega, by omega⟩
      case isFalse hf =>
        have hlog := log2_fraction_le h hf
        have hlead := sub_two_pow_log2_mul h hf
        have hlt := fraction_mul_lt h hf
        dsimp only [Nat.pow_eq]
        exact ⟨by omega, by omega⟩
    case isFalse => exact ⟨by dsimp only; omega, by dsimp only; omega⟩

theorem fields_widen (bits : UInt32) :
    wideFormat.fields (widen bits).toNat = (narrowFormat.fields bits.toNat).widen := by
  rw [widen, fieldsOfNarrow_eq]
  exact fields_wideOfFields (Fields.fits_widen (narrowFormat.fits_fields _))

theorem negative_widen (f : Fields) : f.widen.negative = f.negative := by
  unfold Fields.widen
  split
  · rfl
  · split
    · split <;> rfl
    · rfl

/-- One magnitude in two formats. A finite one has a significand that is longer by some zeros in the
second format, and counts them off from the power of two. -/
inductive Format.Shared (F G : Format) (f g : Fields) : Prop
  | special (hf : f.exponent = F.top) (hg : g.exponent = G.top)
      (hfraction : g.fraction = 0 ↔ f.fraction = 0)
  | finite (zeros : Nat) (hf : f.exponent ≠ F.top) (hg : g.exponent ≠ G.top)
      (hsignificand : G.significand g = F.significand f * 2 ^ zeros)
      (hscale : G.scale g = F.scale f - zeros)

theorem mul_two_pow_eq {m n j : Nat} {k l : Int} (hm : m = n * 2 ^ j) (hl : l = k - j) :
    (m : ℚ) * 2 ^ l = n * 2 ^ k := by
  have hcancel : (2 : ℚ) ^ j * 2 ^ (k - j) = 2 ^ k := by
    rw [← zpow_natCast, ← zpow_add₀ two_ne_zero]
    congr 1
    omega
  rw [hm, hl, Nat.cast_mul, Nat.cast_pow, mul_assoc]
  exact congrArg _ hcancel

theorem Format.Shared.datum_eq (h : F.Shared G f g) (hnegative : g.negative = f.negative) :
    G.datum g = F.datum f := by
  cases h with
  | special hf hg hfraction =>
    rw [datum, if_pos hg, datum, if_pos hf, hnegative]
    exact if_congr hfraction rfl rfl
  | finite zeros hf hg hsignificand hscale =>
    rw [datum, if_neg hg, datum, if_neg hf, value, value, hnegative,
      mul_two_pow_eq hsignificand hscale]

theorem Fields.shared_widen (h : narrowFormat.Fits f) :
    narrowFormat.Shared wideFormat f f.widen := by
  unfold Fields.widen
  split
  case isTrue he =>
    refine .special he rfl ?_
    dsimp only
    split
    case isTrue hf => exact iff_of_true rfl hf
    case isFalse hf =>
      have hle : f.fraction ≤ f.fraction ||| 0x400000 := Nat.left_le_or
      exact iff_of_false (by omega) hf
  case isFalse he =>
    have hlt : f.exponent < 255 := Nat.lt_of_le_of_ne h.exponent_le he
    split
    case isTrue hzero =>
      split
      case isTrue hf =>
        -- either zero has the least power of two of its format, which are 925 apart
        refine .finite 925 he (by rw [hzero]; decide) ?_ ?_
        · rw [Format.significand_of_zero hzero, Format.significand_of_zero hzero, hf, Nat.zero_mul]
        · rw [Format.scale, Format.scale, hzero]
          decide
      case isFalse hf =>
        have hlog := log2_fraction_le h hf
        refine .finite (52 - f.fraction.log2) he ?_ ?_ ?_
        · change 874 + f.fraction.log2 ≠ 2047
          omega
        · rw [Format.significand_of_zero hzero, ← sub_two_pow_log2_mul h hf, Nat.add_comm]
          exact if_neg (by dsimp only; omega)
        · simp only [Format.scale, Format.least, wideFormat, narrowFormat]
          omega
    case isFalse hne =>
      refine .finite 29 he ?_ ?_ ?_
      · change f.exponent + 896 ≠ 2047
        omega
      · have hwide : f.exponent + 896 ≠ 0 := by omega
        rw [Format.significand_of_ne hne, Format.significand_of_ne hwide]
        simp only [wideFormat, narrowFormat]
        omega
      · simp only [Format.scale, Format.least, wideFormat, narrowFormat]
        omega

theorem denotes_widen (bits : UInt32) :
    wideFormat.denotes (widen bits).toNat = narrowFormat.denotes bits.toNat := by
  rw [Format.denotes, fields_widen]
  exact (Fields.shared_widen (narrowFormat.fits_fields _)).datum_eq (negative_widen _)

theorem toNat_eq_parts (bits : UInt32) :
    (if (narrowFormat.fields bits.toNat).negative then 0x80000000 else 0) +
      ((narrowFormat.fields bits.toNat).exponent * 2 ^ narrowFormat.fractionBits +
        (narrowFormat.fields bits.toNat).fraction) = bits.toNat := by
  have hlt := bits.toNat_lt
  change (if decide (2 ^ 31 ≤ bits.toNat) = true then 0x80000000 else 0) +
    (bits.toNat / 2 ^ 23 % 2 ^ 8 * 2 ^ 23 + bits.toNat % 2 ^ 23) = bits.toNat
  simp only [decide_eq_true_eq]
  split <;> omega

theorem narrow_widen {bits : UInt32} (h : narrowFormat.denotes bits.toNat ≠ .notNumber) :
    narrow (widen bits) = bits := by
  have hfits := narrowFormat.fits_fields bits.toNat
  have hparts := toNat_eq_parts bits
  unfold Format.denotes at h
  unfold narrow
  rw [fields_widen]
  generalize narrowFormat.fields bits.toNat = f at *
  dsimp only
  rw [negative_widen, ← UInt32.ofNat_toNat (x := bits), ← hparts]
  congr 2
  cases Fields.shared_widen hfits with
  | special hf hg hfraction =>
    have hzero : f.fraction = 0 := by
      by_contra hne
      rw [Format.datum, if_pos hf, if_neg hne] at h
      exact h rfl
    rw [if_pos hg, if_pos (hfraction.2 hzero), hf, hzero]
    rfl
  | finite zeros hf hg hsignificand hscale =>
    rw [if_neg hg]
    exact Format.nearest_of_eq hfits hf (mul_two_pow_eq hsignificand hscale)

/-- Widening a sequence keeps its length, and each wide number denotes exactly what the narrow one
at its place does: the same rational with the same sign, the infinity of the same sign, or no number.
All but the latter come back bit for bit when they are rounded to the narrow format. -/
theorem widenAll_exact (values : List UInt32) :
    (widenAll values).length = values.length ∧
    ∀ (i : Nat) bits, values[i]? = some bits → ∃ wide, (widenAll values)[i]? = some wide ∧
      wideFormat.denotes wide.toNat = narrowFormat.denotes bits.toNat ∧
      (narrowFormat.denotes bits.toNat ≠ .notNumber → narrow wide = bits) := by
  refine ⟨List.length_map _, ?_⟩
  intro i bits hi
  refine ⟨widen bits, ?_, denotes_widen bits, narrow_widen⟩
  rw [widenAll, List.getElem?_map, hi, Option.map_some]

theorem widenAll_exact_least :
    widenAll [0xFF800000, 0x80000001, 0x7F800001] =
        [0xFFF0000000000000, 0xB6A0000000000000, 0x7FF8000020000000] ∧
      wideFormat.denotes 0xB6A0000000000000 = narrowFormat.denotes 0x80000001 ∧
      narrow 0xB6A0000000000000 = 0x80000001 := by
  have hvalues : widenAll [0xFF800000, 0x80000001, 0x7F800001] =
      [0xFFF0000000000000, 0xB6A0000000000000, 0x7FF8000020000000] := by decide
  obtain ⟨-, hexact⟩ := widenAll_exact [0xFF800000, 0x80000001, 0x7F800001]
  obtain ⟨wide, hwide, hdenotes, hback⟩ := hexact 1 0x80000001 rfl
  rw [hvalues] at hwide
  cases hwide
  refine ⟨hvalues, hdenotes, hback ?_⟩
  rw [Format.denotes, Format.datum, if_neg (by decide)]
  nofun

end TypeGuard.Scalar

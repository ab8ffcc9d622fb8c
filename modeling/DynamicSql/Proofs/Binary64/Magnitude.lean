import DynamicSql.Binary64.ToDecimal
import DynamicSql.Proofs.Binary64.Rounding

/-!
# Which floating-point numbers are decimals

A decimal has 96 bits.  Every floating-point number below `2 ^ 96` in magnitude becomes one,
whatever its exponent (`isSome_toDecimal_iff`): the power of two below the point is traded
without the coefficient growing over 96 bits, and dropping digits only makes it smaller.
-/

namespace DynamicSql.Binary64

/-! ## Magnitudes -/

/-- Without its sign, a floating-point number is its mantissa times a power of two. -/
theorem abs_toRat (x : Binary64) : |x.toRat| = x.mantissa * 2 ^ x.exponent := by
  have hvalue : (x.fraction.1 : ℚ) / x.fraction.2 = x.mantissa * 2 ^ x.exponent := by
    have h := scaled_div x.mantissa 1 x.exponent
    rwa [Nat.cast_one, div_one] at h
  have hnonneg : (0 : ℚ) ≤ x.fraction.1 / x.fraction.2 := by positivity
  rw [← hvalue, toRat, Rat.mkRat_eq_div]
  by_cases hsign : x.negative = true
  · rw [if_pos hsign]
    push_cast
    rw [neg_div, abs_neg, abs_of_nonneg hnonneg]
  · rw [if_neg hsign]
    push_cast
    rw [abs_of_nonneg hnonneg]

/-- A floating-point number of more than 96 bits is an integer. -/
theorem le_abs_toRat_iff {x : Binary64} (h : x.WellFormed) :
    2 ^ 96 ≤ |x.toRat| ↔
      0 ≤ x.exponent ∧ twoPow 96 ≤ x.mantissa * twoPow x.exponent.natAbs := by
  have hbits : (x.mantissa : ℚ) < 2 ^ (53 : ℤ) := by exact_mod_cast h.1
  have hwhole (hsign : 0 ≤ x.exponent) :
      |x.toRat| = (x.mantissa * twoPow x.exponent.natAbs : Nat) := by
    have habs : (x.exponent.natAbs : ℤ) = x.exponent := by omega
    rw [abs_toRat, Nat.cast_mul, cast_twoPow, habs]
  have hlimit : ((twoPow 96 : Nat) : ℚ) = 2 ^ 96 := by
    rw [cast_twoPow]
    norm_num
  constructor
  · intro hle
    have hsign : 0 ≤ x.exponent := by
      by_contra hneg
      have hsmall : |x.toRat| < 2 ^ (53 : ℤ) := by
        calc |x.toRat| = x.mantissa * 2 ^ x.exponent := abs_toRat x
          _ ≤ x.mantissa * 2 ^ (0 : ℤ) := by
              gcongr
              · norm_num
              · omega
          _ < 2 ^ (53 : ℤ) := by rwa [zpow_zero, mul_one]
      norm_num at hsmall hle
      linarith
    refine ⟨hsign, ?_⟩
    rw [hwhole hsign, ← hlimit] at hle
    exact_mod_cast hle
  · rintro ⟨hsign, hle⟩
    rw [hwhole hsign, ← hlimit]
    exact_mod_cast hle

/-! ## Steps of the conversion -/

/-- Trading `n` powers of two keeps 96 bits and moves the exponent up by at most `n`. -/
theorem tradeHalves_bounds (n : Nat) {bits : Nat} (exponent : Int) (h : bits < twoPow 96) :
    (tradeHalves n bits exponent).1 < twoPow 96 ∧
      (tradeHalves n bits exponent).2 ≤ exponent + n := by
  induction n generalizing bits exponent with
  | zero => exact ⟨h, by simp [tradeHalves]⟩
  | succ n ih =>
    have hhalf : bits / 2 < twoPow 96 := (Nat.div_le_self bits 2).trans_lt h
    unfold tradeHalves
    split
    · obtain ⟨hbits, hexponent⟩ := ih (exponent + 1) hhalf
      exact ⟨hbits, by omega⟩
    · split
      · rename_i hroom
        obtain ⟨hbits, hexponent⟩ := ih exponent hroom
        exact ⟨hbits, by omega⟩
      · obtain ⟨hbits, hexponent⟩ := ih (exponent + 1) hhalf
        exact ⟨hbits, by omega⟩

/-- A number of several digits only gets smaller when its last digit is dropped. -/
theorem dropDigit_le {bits : Nat} (h : 10 ≤ bits) :
    bits / 10 + (if 5 ≤ bits % 10 then 1 else 0) ≤ bits := by
  have hround : (if 5 ≤ bits % 10 then 1 else 0) ≤ 1 := by split <;> decide
  calc bits / 10 + (if 5 ≤ bits % 10 then 1 else 0) ≤ bits / 10 + 1 := by gcongr
    _ ≤ bits := by omega

/-- Dropping digits makes a number smaller and moves its exponent up, or leaves nothing. -/
theorem dropDigits_bounds (n bits : Nat) (exponent : Int) :
    (dropDigits n bits exponent).1 ≤ bits ∧
      ((dropDigits n bits exponent).2 = exponent + n ∨ (dropDigits n bits exponent).2 = 0) := by
  induction n generalizing bits exponent with
  | zero => simp [dropDigits]
  | succ n ih =>
    unfold dropDigits
    by_cases h : bits / 10 = 0
    · rw [if_pos h]
      exact ⟨Nat.zero_le _, .inr rfl⟩
    · rw [if_neg h]
      obtain ⟨hbits, hexponent⟩ :=
        ih (bits / 10 + (if 5 ≤ bits % 10 then 1 else 0)) (exponent + 1)
      exact ⟨hbits.trans (dropDigit_le (by omega)), hexponent.imp (by omega) id⟩

theorem fitMantissa_bounds (places bits : Nat) :
    (fitMantissa places bits).1 ≤ bits ∧ (fitMantissa places bits).2 ≤ places := by
  induction places generalizing bits with
  | zero => simp [fitMantissa]
  | succ places ih =>
    unfold fitMantissa
    by_cases h : bits < twoPow 52
    · rw [if_pos h]
      exact ⟨Nat.le_refl _, Nat.le_refl _⟩
    · have hlimit : twoPow 52 = 4503599627370496 := rfl
      rw [if_neg h]
      obtain ⟨hbits, hplaces⟩ := ih (bits / 10 + (if 5 ≤ bits % 10 then 1 else 0))
      exact ⟨hbits.trans (dropDigit_le (by omega)), by omega⟩

theorem dropZeros_bounds (places bits : Nat) :
    (dropZeros places bits).1 ≤ bits ∧ (dropZeros places bits).2 ≤ places := by
  induction places generalizing bits with
  | zero => simp [dropZeros]
  | succ places ih =>
    unfold dropZeros
    split
    · obtain ⟨hbits, hplaces⟩ := ih (bits / 10)
      exact ⟨by omega, by omega⟩
    · exact ⟨Nat.le_refl _, Nat.le_refl _⟩

/-- A number at or below the point is cut to 28 places. -/
theorem cut_bounds {bits : Nat} {exponent : Int} (hbits : bits < twoPow 96)
    (hexponent : exponent ≤ 0) {cut : Nat × Int}
    (h : (if exponent < -28 then dropDigits (exponent + 28).natAbs bits exponent
      else (bits, exponent)) = cut) :
    cut.1 < twoPow 96 ∧ cut.2.natAbs ≤ 28 := by
  subst h
  by_cases hlong : exponent < -28
  · rw [if_pos hlong]
    obtain ⟨hsmaller, hplaces⟩ := dropDigits_bounds (exponent + 28).natAbs bits exponent
    exact ⟨hsmaller.trans_lt hbits, by omega⟩
  · rw [if_neg hlong]
    exact ⟨hbits, by simp only; omega⟩

/-- Every fraction by a power of two becomes a decimal. -/
theorem isSome_ofHalves (negative : Bool) {mantissa : Nat} (h : mantissa < twoPow 96) (n : Nat) :
    (ofHalves negative mantissa n).isSome = true := by
  obtain ⟨hbits, hexponent⟩ := tradeHalves_bounds n (-n) h
  have hbelow : (tradeHalves n mantissa (-n)).2 ≤ 0 := by omega
  obtain ⟨hcutBits, hcutPlaces⟩ := cut_bounds hbits hbelow rfl
  obtain ⟨hfitBits, hfitPlaces⟩ := fitMantissa_bounds _ _
  obtain ⟨hfinalBits, hfinalPlaces⟩ := dropZeros_bounds _ _
  unfold ofHalves
  simp only
  rw [dif_pos ⟨hfinalBits.trans_lt (hfitBits.trans_lt hcutBits),
    hfinalPlaces.trans (hfitPlaces.trans hcutPlaces)⟩]
  rfl

/-- **A floating-point number becomes a decimal exactly if it has at most 96 bits** before the
point. -/
theorem isSome_toDecimal_iff {x : Binary64} (h : x.WellFormed) :
    x.toDecimal.isSome = true ↔ |x.toRat| < 2 ^ 96 := by
  rw [← not_le, le_abs_toRat_iff h, not_and_or, not_le, not_le]
  have hlimits : twoPow 53 < twoPow 96 := by decide
  unfold toDecimal
  by_cases hzero : x.isZero = true
  · have hmantissa : x.mantissa = 0 := by simpa [isZero] using hzero
    simp [hzero, hmantissa, twoPow_pos]
  · by_cases hsign : x.exponent < 0
    · simp [hzero, hsign, isSome_ofHalves x.negative (h.1.trans hlimits)]
    · by_cases hroom : x.mantissa * twoPow x.exponent.natAbs < twoPow 96 <;>
        simp [hzero, hsign, hroom]

end DynamicSql.Binary64

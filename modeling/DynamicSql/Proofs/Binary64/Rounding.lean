import DynamicSql.Binary64.Range
import Mathlib.Algebra.Order.Field.Power
import Mathlib.Data.Rat.Cast.Order
import Mathlib.Tactic.FieldSimp
import Mathlib.Tactic.Linarith
import Mathlib.Tactic.NormNum
import Mathlib.Tactic.Positivity
import Mathlib.Tactic.Ring

/-!
# Rounded fractions are floating-point numbers

The binary logarithm of a fraction says with which exponent its mantissa has 53 bits
(`log2Floor_spec`), so what a fraction is rounded to is well formed (`wellFormed_of_nearest`),
and with it every result of an operation.
-/

namespace DynamicSql.Binary64

/-! ## Scaled fractions -/

theorem cast_twoPow (n : Nat) : (twoPow n : ℚ) = 2 ^ (n : ℤ) := by
  rw [twoPow, zpow_natCast]
  exact_mod_cast rfl

/-- Scaling a fraction is multiplying it by a power of two. -/
theorem scaled_div (num den : Nat) (e : Int) :
    ((scaled num den e).1 : ℚ) / (scaled num den e).2 = num / den * 2 ^ e := by
  unfold scaled
  by_cases h : e < 0
  · have habs : (e.natAbs : ℤ) = -e := by omega
    rw [if_pos h]
    push_cast
    rw [cast_twoPow, habs, zpow_neg, ← div_div, div_inv_eq_mul]
  · have habs : (e.natAbs : ℤ) = e := by omega
    rw [if_neg h]
    push_cast
    rw [cast_twoPow, habs, div_mul_eq_mul_div]

theorem scaled_pos (num : Nat) {den : Nat} (h : 0 < den) (e : Int) : 0 < (scaled num den e).2 := by
  unfold scaled
  split
  · exact Nat.mul_pos h (twoPow_pos _)
  · exact h

theorem div_of_scaled {num den n d : Nat} {e : Int} (hden : 0 < den)
    (h : scaled num den e = (n, d)) : (n : ℚ) / d = num / den * 2 ^ e ∧ 0 < d := by
  have hvalue := scaled_div num den e
  have hpos := scaled_pos num hden e
  rw [h] at hvalue hpos
  exact ⟨hvalue, hpos⟩

/-! ## The binary logarithm -/

theorem two_zpow_log2_le {n : Nat} (h : 0 < n) : (2 : ℚ) ^ (Nat.log2 n : ℤ) ≤ n := by
  rw [zpow_natCast]
  exact_mod_cast Nat.log2_self_le h.ne'

theorem lt_two_zpow_log2 (n : Nat) : (n : ℚ) < 2 ^ ((Nat.log2 n : ℤ) + 1) := by
  exact_mod_cast Nat.lt_log2_self (n := n)

/-- The lengths of numerator and denominator give a fraction up to a factor of two. -/
theorem div_bounds {num den : Nat} (hnum : 0 < num) (hden : 0 < den) :
    (2 : ℚ) ^ ((Nat.log2 num : ℤ) - Nat.log2 den - 1) ≤ num / den ∧
      (num : ℚ) / den < 2 ^ ((Nat.log2 num : ℤ) - Nat.log2 den + 1) := by
  have hdenPos : (0 : ℚ) < den := by exact_mod_cast hden
  constructor
  · rw [le_div_iff₀ hdenPos]
    calc (2 : ℚ) ^ ((Nat.log2 num : ℤ) - Nat.log2 den - 1) * den
        ≤ 2 ^ ((Nat.log2 num : ℤ) - Nat.log2 den - 1) * 2 ^ ((Nat.log2 den : ℤ) + 1) := by
          gcongr
          exact (lt_two_zpow_log2 den).le
      _ = 2 ^ (Nat.log2 num : ℤ) := by
          rw [← zpow_add₀ two_ne_zero]
          congr 1
          omega
      _ ≤ num := two_zpow_log2_le hnum
  · rw [div_lt_iff₀ hdenPos]
    calc (num : ℚ) < 2 ^ ((Nat.log2 num : ℤ) + 1) := lt_two_zpow_log2 num
      _ = 2 ^ ((Nat.log2 num : ℤ) - Nat.log2 den + 1) * 2 ^ (Nat.log2 den : ℤ) := by
          rw [← zpow_add₀ two_ne_zero]
          congr 1
          omega
      _ ≤ 2 ^ ((Nat.log2 num : ℤ) - Nat.log2 den + 1) * den := by
          gcongr
          exact two_zpow_log2_le hden

/-- The logarithm is the greatest power of two that is not above the fraction. -/
theorem log2Floor_spec {num den : Nat} (hnum : 0 < num) (hden : 0 < den) :
    (2 : ℚ) ^ log2Floor num den ≤ num / den ∧
      (num : ℚ) / den < 2 ^ (log2Floor num den + 1) := by
  obtain ⟨hlow, hhigh⟩ := div_bounds hnum hden
  -- the guess is right or too great by one, and comparing the scaled fraction with one tells
  unfold log2Floor
  simp only
  obtain ⟨n, d, hpair⟩ : ∃ n d, scaled num den (-((Nat.log2 num : ℤ) - Nat.log2 den)) = (n, d) :=
    ⟨_, _, rfl⟩
  obtain ⟨hscaled, hpos⟩ := div_of_scaled hden hpair
  rw [hpair]
  have hpow : (0 : ℚ) < 2 ^ ((Nat.log2 num : ℤ) - Nat.log2 den) := by positivity
  have hd : (0 : ℚ) < d := by exact_mod_cast hpos
  have hone : (d ≤ n) ↔ (2 : ℚ) ^ ((Nat.log2 num : ℤ) - Nat.log2 den) ≤ num / den := by
    rw [← Nat.cast_le (α := ℚ), ← one_le_div hd, hscaled, zpow_neg, ← div_eq_mul_inv,
      one_le_div hpow]
  by_cases h : d ≤ n
  · rw [if_pos h]
    exact ⟨hone.1 h, hhigh⟩
  · rw [if_neg h, sub_add_cancel]
    exact ⟨hlow, not_le.1 (mt hone.2 h)⟩

/-! ## Rounding -/

/-- A quotient between two natural numbers is rounded to a number between them. -/
theorem roundHalfEven_le {num den bound : Nat} (hden : 0 < den) (h : num ≤ bound * den) :
    roundHalfEven num den ≤ bound := by
  have hnear := (roundHalfEven_near num hden).1
  by_contra hgt
  have hnext : (bound + 1) * den ≤ roundHalfEven num den * den :=
    Nat.mul_le_mul_right den (by omega)
  rw [Nat.add_mul] at hnext
  omega

theorem le_roundHalfEven {num den bound : Nat} (hden : 0 < den) (h : bound * den ≤ num) :
    bound ≤ roundHalfEven num den := by
  have hquotient : bound ≤ num / den := (Nat.le_div_iff_mul_le hden).2 h
  unfold roundHalfEven
  simp only
  split <;> omega

theorem wellFormed_zero (negative : Bool) : (zero negative).WellFormed := by
  cases negative <;> decide

/-- A fraction is scaled and rounded; a mantissa that becomes too long is halved. -/
theorem nearest_cases {negative : Bool} {num den : Nat} (hnum : 0 < num) {x : Binary64}
    (h : nearest negative num den = some x) :
    (x = ⟨negative, twoPow 52, nearestExponent num den + 1⟩ ∧ nearestExponent num den < 971) ∨
    ∃ n d, scaled num den (-nearestExponent num den) = (n, d) ∧
      roundHalfEven n d ≠ twoPow 53 ∧
      x = ⟨negative, roundHalfEven n d, nearestExponent num den⟩ ∧
      nearestExponent num den ≤ 971 := by
  unfold nearest at h
  rw [if_neg hnum.ne'] at h
  have he : max (log2Floor num den - 52) (-1074) = nearestExponent num den := rfl
  simp only [he] at h
  generalize nearestExponent num den = e at h ⊢
  generalize scaled num den (-e) = pair at h ⊢
  obtain ⟨n, d⟩ := pair
  simp only at h
  by_cases hcarry : roundHalfEven n d = twoPow 53
  · simp only [if_pos hcarry, Option.ite_none_left_eq_some, Option.some.injEq] at h
    exact .inl ⟨h.2.symm, by omega⟩
  · simp only [if_neg hcarry, Option.ite_none_left_eq_some, Option.some.injEq] at h
    exact .inr ⟨n, d, rfl, hcarry, h.2.symm, by omega⟩

/-- Scaled by a power of two that is not too small, a fraction has at most 53 bits before the
point. -/
theorem scaled_le {num den n d : Nat} {e : Int} (hnum : 0 < num) (hden : 0 < den)
    (hscaled : scaled num den (-e) = (n, d)) (he : log2Floor num den - 52 ≤ e) :
    n ≤ twoPow 53 * d := by
  obtain ⟨hvalue, hpos⟩ := div_of_scaled hden hscaled
  have hhigh := (log2Floor_spec hnum hden).2
  have hlt : (n : ℚ) / d < 2 ^ (53 : ℤ) := by
    rw [hvalue]
    calc (num : ℚ) / den * 2 ^ (-e) < 2 ^ (log2Floor num den + 1) * 2 ^ (-e) := by gcongr
      _ = 2 ^ (log2Floor num den + 1 - e) := by
          rw [← zpow_add₀ two_ne_zero, sub_eq_add_neg]
      _ ≤ 2 ^ (53 : ℤ) := zpow_le_zpow_right₀ (by norm_num) (by omega)
  rw [div_lt_iff₀ (by exact_mod_cast hpos)] at hlt
  have hle : (n : ℚ) ≤ (twoPow 53 * d : Nat) := by
    push_cast
    rw [cast_twoPow]
    exact_mod_cast hlt.le
  exact_mod_cast hle

/-- Scaled by the power of two of its logarithm, a fraction has at least 53 of them. -/
theorem le_scaled {num den n d : Nat} {e : Int} (hnum : 0 < num) (hden : 0 < den)
    (hscaled : scaled num den (-e) = (n, d)) (he : e = log2Floor num den - 52) :
    twoPow 52 * d ≤ n := by
  obtain ⟨hvalue, hpos⟩ := div_of_scaled hden hscaled
  have hlow := (log2Floor_spec hnum hden).1
  have hle : (2 : ℚ) ^ (52 : ℤ) ≤ n / d := by
    rw [hvalue]
    calc (2 : ℚ) ^ (52 : ℤ) = 2 ^ log2Floor num den * 2 ^ (-e) := by
          rw [← zpow_add₀ two_ne_zero]
          congr 1
          omega
      _ ≤ num / den * 2 ^ (-e) := by gcongr
  rw [le_div_iff₀ (by exact_mod_cast hpos)] at hle
  have hle' : ((twoPow 52 * d : Nat) : ℚ) ≤ n := by
    push_cast
    rw [cast_twoPow]
    exact_mod_cast hle
  exact_mod_cast hle'

/-- **What a fraction is rounded to is a floating-point number.** -/
theorem wellFormed_of_nearest {negative : Bool} {num den : Nat} (hden : 0 < den) {x : Binary64}
    (h : nearest negative num den = some x) : x.WellFormed := by
  obtain rfl | hnum := Nat.eq_zero_or_pos num
  · obtain rfl : zero negative = x := by simpa [nearest] using h
    exact wellFormed_zero negative
  have hlimits : twoPow 53 = 9007199254740992 ∧ twoPow 52 = 4503599627370496 := ⟨rfl, rfl⟩
  have he : nearestExponent num den = max (log2Floor num den - 52) (-1074) := rfl
  rcases nearest_cases hnum h with ⟨rfl, hgreatest⟩ | ⟨n, d, hscaled, hcarry, rfl, hgreatest⟩
  · exact ⟨by simp only; omega, by simp only; omega, by simp only; omega, .inr (Nat.le_refl _)⟩
  have hpos : 0 < d := (div_of_scaled hden hscaled).2
  have hupper : n ≤ twoPow 53 * d := scaled_le hnum hden hscaled (by omega)
  have hround := roundHalfEven_le hpos hupper
  refine ⟨by simp only; omega, by simp only; omega, hgreatest, ?_⟩
  by_cases hleast : nearestExponent num den = -1074
  · exact .inl hleast
  · exact .inr (le_roundHalfEven hpos (le_scaled hnum hden hscaled (by omega)))

/-- A fraction of at least one is rounded to a mantissa with all its bits. -/
theorem le_mantissa_of_nearest {negative : Bool} {num den : Nat} (hden : 0 < den)
    (hone : den ≤ num) {x : Binary64} (h : nearest negative num den = some x) :
    twoPow 52 ≤ x.mantissa := by
  have hnum : 0 < num := by omega
  obtain ⟨-, -, -, hleast | hbits⟩ := wellFormed_of_nearest hden h
  · -- the logarithm is not negative, so the exponent is far from the least one
    have hlog : 0 ≤ log2Floor num den := by
      have hhigh := (log2Floor_spec hnum hden).2
      have hge : (1 : ℚ) ≤ num / den := by
        rw [one_le_div (by exact_mod_cast hden)]
        exact_mod_cast hone
      by_contra hneg
      have hle : (2 : ℚ) ^ (log2Floor num den + 1) ≤ 2 ^ (0 : ℤ) :=
        zpow_le_zpow_right₀ (by norm_num) (by omega)
      rw [zpow_zero] at hle
      linarith
    have he : -52 ≤ nearestExponent num den := by
      unfold nearestExponent
      omega
    rcases nearest_cases hnum h with ⟨rfl, -⟩ | ⟨n, d, -, -, rfl, -⟩ <;>
      (simp only at hleast; omega)
  · exact hbits

/-! ## Operations -/

theorem fraction_snd_pos (x : Binary64) : 0 < x.fraction.2 := scaled_pos _ Nat.one_pos _

theorem fraction_fst_pos {x : Binary64} (h : 0 < x.mantissa) : 0 < x.fraction.1 := by
  unfold fraction scaled
  split
  · exact h
  · exact Nat.mul_pos h (twoPow_pos _)

theorem wellFormed_neg {x : Binary64} (h : x.WellFormed) : x.neg.WellFormed := h

theorem wellFormed_of_mul {x y z : Binary64} (h : x.mul y = some z) : z.WellFormed :=
  wellFormed_of_nearest (Nat.mul_pos x.fraction_snd_pos y.fraction_snd_pos) h

theorem wellFormed_of_div {x y z : Binary64} (hy : 0 < y.mantissa) (h : x.div y = some z) :
    z.WellFormed :=
  wellFormed_of_nearest (Nat.mul_pos x.fraction_snd_pos (fraction_fst_pos hy)) h

end DynamicSql.Binary64

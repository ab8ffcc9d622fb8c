import DynamicSql.Value.Meaning
import Mathlib.Algebra.Order.Field.Rat

/-!
# The order of decimals is that of their numbers

Two decimals are compared by their coefficients, each brought to the places of both.  That is
comparing the numbers they stand for (`compare_eq`, `same_iff_toRat`), so neither the places
nor the sign of a zero matter, and an integer that is made a decimal is still the same number.
-/

namespace DynamicSql.Decimal

variable {a b : Decimal}

theorem signed_ofInt64 (i : Int64) : (ofInt64 i).signed = i.toInt := by
  unfold signed ofInt64 ofInt
  by_cases h : i.toInt < 0
  · simp only [h, decide_true, if_true]
    omega
  · simp only [h, decide_false, Bool.false_eq_true, if_false]
    omega

@[simp] theorem toRat_ofInt64 (i : Int64) : (ofInt64 i).toRat = mkRat i.toInt 1 := by
  rw [toRat, signed_ofInt64]
  rfl

/-- A number of tenths, with one place. -/
def tenths (i : Int64) : Decimal := { ofInt64 i with scale := 1, scale_le := by decide }

@[simp] theorem toRat_tenths (i : Int64) : (tenths i).toRat = mkRat i.toInt 10 := by
  have hsigned : (tenths i).signed = i.toInt := signed_ofInt64 i
  rw [toRat, hsigned]
  rfl

theorem toRat_eq_iff :
    a.toRat = b.toRat ↔ a.signed * tenPow b.scale = b.signed * tenPow a.scale :=
  Rat.mkRat_eq_iff (tenPow_pos a.scale).ne' (tenPow_pos b.scale).ne'

theorem toRat_lt_iff :
    a.toRat < b.toRat ↔ a.signed * tenPow b.scale < b.signed * tenPow a.scale := by
  have ha : (0 : ℚ) < tenPow a.scale := by exact_mod_cast tenPow_pos a.scale
  have hb : (0 : ℚ) < tenPow b.scale := by exact_mod_cast tenPow_pos b.scale
  rw [toRat, toRat, Rat.mkRat_eq_div, Rat.mkRat_eq_div, div_lt_div_iff₀ ha hb]
  exact_mod_cast Iff.rfl

/-- Two decimals are the same exactly if they stand for the same number. -/
theorem same_iff_toRat : a.same b = true ↔ a.toRat = b.toRat := by
  rw [toRat_eq_iff, same, beq_iff_eq]

/-- Two decimals are ordered as their numbers are. -/
theorem compare_eq (a b : Decimal) : a.compare b = Ord.compare a.toRat b.toRat := by
  rw [compare]
  rcases lt_trichotomy a.toRat b.toRat with h | h | h
  · rw [compare_lt_iff_lt.2 h, compare_lt_iff_lt.2 (toRat_lt_iff.1 h)]
  · rw [compare_eq_iff_eq.2 h, compare_eq_iff_eq.2 (toRat_eq_iff.1 h)]
  · rw [compare_gt_iff_gt.2 h, compare_gt_iff_gt.2 (toRat_lt_iff.1 h)]

end DynamicSql.Decimal

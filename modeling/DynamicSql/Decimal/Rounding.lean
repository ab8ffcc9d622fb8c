import DynamicSql.Powers

/-!
# Rounding a quotient

The nearest natural number to a quotient; a quotient half way between two
neighbours goes to the even one, or up where that is asked for.
-/

namespace DynamicSql

/-- The natural number nearest to `num / den`, ties to even. -/
def roundHalfEven (num den : Nat) : Nat :=
  let q := num / den
  let r := num % den
  if den < 2 * r ∨ (2 * r = den ∧ q % 2 = 1) then q + 1 else q

/-- The rounded quotient is at most half a unit away. -/
theorem roundHalfEven_near (num : Nat) {den : Nat} (h : 0 < den) :
    2 * (roundHalfEven num den * den) ≤ 2 * num + den ∧
      2 * num ≤ 2 * (roundHalfEven num den * den) + den := by
  have hdiv := Nat.div_add_mod num den
  have hmod := Nat.mod_lt num h
  rw [Nat.mul_comm] at hdiv
  unfold roundHalfEven
  simp only
  split <;> rename_i hc
  · rw [Nat.add_mul]
    omega
  · omega

/-- The natural number nearest to `num / den`; a tie goes up if `tieUp` says so, else to
even. -/
def roundHalf (tieUp : Bool) (num den : Nat) : Nat :=
  if tieUp ∧ 2 * (num % den) = den then num / den + 1 else roundHalfEven num den

end DynamicSql

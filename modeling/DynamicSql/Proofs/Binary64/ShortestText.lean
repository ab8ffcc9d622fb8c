import DynamicSql.Binary64.Text
import DynamicSql.Proofs.Binary64.Magnitude
import DynamicSql.Proofs.Decimal.Scientific

/-!
# The text of large floating-point numbers

The shortest digits of a number are looked for on grids of powers of ten, from coarse to fine.
A grid finer than the distance to the next number has a hit (`isSome_onGrid?`), so the search
for a large number ends at a power of ten that is not negative (`exists_shortest`).  A number
of more than 96 bits has digits that stand for no less than `2 ^ 96`, and is written with an
exponent of at least 28 (`text_of_le`).
-/

namespace DynamicSql.Binary64

open Text (natText pointed)

variable {x : Binary64}

/-! ## Grids -/

/-- From four upwards a number and its neighbours are integers. -/
theorem interval_of_exponent {s : Nat} (h : x.exponent = s + 2) :
    ∃ below ≤ 2, x.interval = ((4 * x.mantissa - below) * twoPow s, 4 * x.mantissa * twoPow s,
      (4 * x.mantissa + 2) * twoPow s, 1) := by
  have hunit : scaled 1 1 (x.exponent - 2) = (twoPow s, 1) := by
    have hsub : x.exponent - 2 = s := by omega
    rw [hsub, scaled, if_neg (by omega), Int.natAbs_natCast, Nat.one_mul]
  refine ⟨if x.mantissa = twoPow 52 ∧ x.exponent > -1074 then 1 else 2, by split <;> decide, ?_⟩
  rw [interval, hunit]

/-- What is found on a grid is not below the interval. -/
theorem le_of_onGrid? {s k d : Nat} (hs : x.exponent = s + 2) (h : x.onGrid? k = some d) :
    (4 * x.mantissa - 2) * twoPow s ≤ d * tenPow k := by
  obtain ⟨below, hbelow, hinterval⟩ := interval_of_exponent hs
  have hlow : (4 * x.mantissa - 2) * twoPow s ≤ (4 * x.mantissa - below) * twoPow s :=
    Nat.mul_le_mul_right _ (by omega)
  have hinside : ∀ {low high v : Nat}, (if x.mantissa % 2 = 0 then
      decide (low ≤ v) && decide (v ≤ high) else decide (low < v) && decide (v < high)) = true →
      low ≤ v := by
    intro low high v hv
    split at hv <;> simp only [Bool.and_eq_true, decide_eq_true_eq] at hv <;> omega
  have hsign : ¬ ((k : Int) < 0) := by omega
  unfold onGrid? at h
  rw [hinterval] at h
  simp only [if_neg hsign, Int.natAbs_natCast, Nat.mul_one] at h
  split at h
  · -- of two hits it is one
    rename_i hfirst _
    cases h
    refine hlow.trans ((hinside hfirst).trans (Nat.mul_le_mul_right _ ?_))
    unfold roundHalfEven
    simp only
    split <;> omega
  · rename_i hfirst _
    cases h
    exact hlow.trans (hinside hfirst)
  · rename_i _ hsecond
    cases h
    exact hlow.trans (hinside hsecond)
  · cases h

/-- A grid that is finer than the distance to the next number has a hit. -/
theorem isSome_onGrid? {s k : Nat} (hs : x.exponent = s + 2) (hfine : tenPow k ≤ twoPow s) :
    (x.onGrid? k).isSome = true := by
  obtain ⟨below, -, hinterval⟩ := interval_of_exponent hs
  have hsign : ¬ ((k : Int) < 0) := by omega
  -- the first multiple above the number is still below the upper end
  have hdiv := Nat.div_add_mod (4 * x.mantissa * twoPow s) (tenPow k)
  have hmod := Nat.mod_lt (4 * x.mantissa * twoPow s) (tenPow_pos k)
  have hnext : (4 * x.mantissa * twoPow s / tenPow k + 1) * tenPow k =
      tenPow k * (4 * x.mantissa * twoPow s / tenPow k) + tenPow k := by
    rw [Nat.add_mul, Nat.one_mul, Nat.mul_comm]
  have hlow : (4 * x.mantissa - below) * twoPow s ≤ 4 * x.mantissa * twoPow s :=
    Nat.mul_le_mul_right _ (Nat.sub_le _ _)
  have hhigh : (4 * x.mantissa + 2) * twoPow s = 4 * x.mantissa * twoPow s + 2 * twoPow s :=
    Nat.add_mul _ _ _
  have hinside : (4 * x.mantissa - below) * twoPow s <
        (4 * x.mantissa * twoPow s / tenPow k + 1) * tenPow k ∧
      (4 * x.mantissa * twoPow s / tenPow k + 1) * tenPow k < (4 * x.mantissa + 2) * twoPow s := by
    have := tenPow_pos k
    omega
  unfold onGrid?
  rw [hinterval]
  simp only [if_neg hsign, Int.natAbs_natCast, Nat.mul_one, hinside.1, hinside.2, hinside.1.le,
    hinside.2.le, decide_true, Bool.and_self, ite_self]
  split <;> first | rfl | (rename_i hfalse; cases hfalse)

/-- The search stops no later than at a grid with a hit. -/
theorem searchGrids_of_isSome {fuel j : Nat} {p : Int} (hj : j < fuel)
    (h : (x.onGrid? (p - j)).isSome = true) :
    ∃ d, ∃ i : Nat, i ≤ j ∧ x.searchGrids fuel p = (d, p - i) ∧ x.onGrid? (p - i) = some d := by
  induction fuel generalizing j p with
  | zero => omega
  | succ fuel ih =>
    unfold searchGrids
    cases hgrid : x.onGrid? p with
    | some d => exact ⟨d, 0, Nat.zero_le j, by simp, by simpa using hgrid⟩
    | none =>
      -- the hit is on one of the finer grids
      cases j with
      | zero =>
        rw [Nat.cast_zero, sub_zero, hgrid] at h
        cases h
      | succ j =>
        have hshift : ∀ i : Nat, p - 1 - i = p - (i + 1 : Nat) := by
          intro i
          omega
        obtain ⟨d, i, hi, hsearch, hhit⟩ := ih (j := j) (p := p - 1) (by omega)
          (by rw [hshift]; exact h)
        rw [hshift] at hsearch hhit
        exact ⟨d, i + 1, by omega, hsearch, hhit⟩

/-- The coarsest grid that is looked at. -/
def firstGrid (x : Binary64) : Int := ((x.exponent + 53) * 30103).tdiv 100000 + 2

/-- The shortest digits stand on a grid that is no finer than one with a hit. -/
theorem exists_shortest {k : Nat} (hfirst : k ≤ x.firstGrid) (hlast : x.firstGrid < k + 40)
    (h : (x.onGrid? k).isSome = true) :
    ∃ d n : Nat, k ≤ n ∧ x.shortest = (d, (n : Int)) ∧ x.onGrid? n = some d := by
  obtain ⟨j, hj⟩ : ∃ j : Nat, x.firstGrid = k + j := ⟨(x.firstGrid - k).toNat, by omega⟩
  have hk : x.firstGrid - j = k := by omega
  have hnear : j < 40 := by omega
  obtain ⟨d, i, hi, hsearch, hhit⟩ := searchGrids_of_isSome hnear (by rwa [hk])
  have hn : x.firstGrid - i = (k + j - i : Nat) := by omega
  rw [hn] at hsearch hhit
  exact ⟨d, k + j - i, by omega, hsearch, hhit⟩

/-! ## Large numbers -/

/-- Ten to the third is less than two to the tenth. -/
theorem tenPow_le_twoPow {k s : Nat} (h : 10 * k ≤ 3 * s) : tenPow k ≤ twoPow s := by
  have hcubes : tenPow k ^ 3 ≤ twoPow s ^ 3 := by
    calc tenPow k ^ 3 = (10 ^ 3) ^ k := by rw [tenPow, Nat.pow_eq, ← pow_mul, ← pow_mul, mul_comm]
      _ ≤ (2 ^ 10) ^ k := Nat.pow_le_pow_left (by decide) k
      _ = 2 ^ (10 * k) := (pow_mul 2 10 k).symm
      _ ≤ 2 ^ (3 * s) := Nat.pow_le_pow_right (by decide) h
      _ = twoPow s ^ 3 := by rw [twoPow, Nat.pow_eq, ← pow_mul, mul_comm]
  exact (Nat.pow_le_pow_iff_left (by decide)).1 hcubes

/-- Digits with zeros behind them are fewer than a one with that many zeros. -/
theorem mul_tenPow_lt (d k : Nat) : d * tenPow k < tenPow ((natText d).length + k) := by
  rw [tenPow_add]
  exact Nat.mul_lt_mul_of_pos_right (Text.lt_tenPow_length d) (tenPow_pos k)

/-- A number of more than 96 bits has an exponent that says so. -/
theorem le_exponent_of_le {x : Binary64} (h : x.WellFormed) (hlarge : 2 ^ 96 ≤ |x.toRat|) :
    44 ≤ x.exponent ∧ twoPow 52 ≤ x.mantissa := by
  obtain ⟨hsign, hle⟩ := (le_abs_toRat_iff h).1 hlarge
  obtain ⟨hbits, -, -, hleast⟩ := h
  refine ⟨?_, hleast.resolve_left (by omega)⟩
  by_contra hsmall
  have hpower : twoPow x.exponent.natAbs ≤ twoPow 43 :=
    Nat.pow_le_pow_right (by decide) (by omega)
  have hless : x.mantissa * twoPow x.exponent.natAbs < twoPow 53 * twoPow 43 :=
    Nat.mul_lt_mul_of_lt_of_le hbits hpower (twoPow_pos 43)
  exact absurd (hle.trans_lt hless) (by decide)

/-- The first grid is coarse enough for the search to come to a grid that has a hit. -/
theorem exists_shortest_of_exponent {x : Binary64} {s : Nat} (hs : x.exponent = s + 2)
    (hgreatest : x.exponent ≤ 971) :
    ∃ d n : Nat, x.shortest = (d, (n : Int)) ∧ x.onGrid? n = some d := by
  have hfirst : x.firstGrid = ((s : Int) + 2 + 53) * 30103 / 100000 + 2 := by
    rw [firstGrid, hs, Int.tdiv_eq_ediv_of_nonneg (by omega)]
  obtain ⟨d, n, -, hshortest, hhit⟩ := exists_shortest (x := x) (k := (x.firstGrid - 39).toNat)
    (by omega) (by omega) (isSome_onGrid? hs (tenPow_le_twoPow (by omega)))
  exact ⟨d, n, hshortest, hhit⟩

/-- A number of more than 96 bits has digits that stand for no less, and not many if their
number is below `10 ^ 29`. -/
theorem shortest_of_le (h : x.WellFormed) (hlarge : 2 ^ 96 ≤ |x.toRat|) :
    ∃ d k : Nat, x.shortest = (d, (k : Int)) ∧ twoPow 96 ≤ d * tenPow k ∧
      ((natText d).length + k ≤ 29 → 12 ≤ k) := by
  obtain ⟨hexponent, hmantissa⟩ := le_exponent_of_le h hlarge
  have hgreatest : x.exponent ≤ 971 := h.2.2.1
  have hlimit : twoPow 52 = 4503599627370496 := rfl
  rw [hlimit] at hmantissa
  obtain ⟨s, hs⟩ : ∃ s : Nat, x.exponent = s + 2 := ⟨(x.exponent - 2).toNat, by omega⟩
  by_cases hleast : s = 42
  · subst hleast
    by_cases hpower : x.mantissa = twoPow 52
    · -- the digits of this number are rounded up, those of the lower end would be too small
      have hx : x = ⟨x.negative, twoPow 52, 44⟩ := by
        rw [← hpower]
        exact congrArg (Binary64.mk _ _) hs
      refine ⟨7922816251426434, 13, ?_, by decide, fun _ => by decide⟩
      rw [hx]
      cases x.negative <;> decide +kernel
    · obtain ⟨d, n, hn, hshortest, hhit⟩ := exists_shortest (x := x) (k := 12)
        (by rw [firstGrid, hs]; decide) (by rw [firstGrid, hs]; decide)
        (isSome_onGrid? hs (by decide))
      refine ⟨d, n, hshortest, ?_, fun _ => hn⟩
      rw [hlimit] at hpower
      calc twoPow 96 ≤ (4 * 4503599627370497 - 2) * twoPow 42 := by decide
        _ ≤ (4 * x.mantissa - 2) * twoPow 42 := Nat.mul_le_mul_right _ (by omega)
        _ ≤ d * tenPow n := le_of_onGrid? hs hhit
  · obtain ⟨d, n, hshortest, hhit⟩ := exists_shortest_of_exponent hs hgreatest
    have hdigits : tenPow 29 ≤ d * tenPow n := by
      calc tenPow 29 ≤ (4 * 4503599627370496 - 2) * twoPow 43 := by decide
        _ ≤ (4 * x.mantissa - 2) * twoPow s :=
          Nat.mul_le_mul (by omega) (Nat.pow_le_pow_right (by decide) (by omega))
        _ ≤ d * tenPow n := le_of_onGrid? hs hhit
    refine ⟨d, n, hshortest, le_trans (by decide) hdigits, fun hlength => ?_⟩
    have hless : tenPow 29 < tenPow ((natText d).length + n) :=
      hdigits.trans_lt (mul_tenPow_lt d n)
    exact absurd (hless.trans_le (tenPow_le hlength)) (Nat.lt_irrefl _)

/-- Digits that end far before the point are written with an exponent. -/
theorem digitsText_of_lt {digits : List Char} {k : Nat} (hne : digits ≠ [])
    (h : 16 < digits.length + k) :
    digitsText digits k = pointed digits ++ 'e' :: natText (digits.length + k - 1) := by
  have hmost : positional.most = 16 := rfl
  have hpoint : ((digits.length : Int) + k) - 1 = (digits.length + k - 1 : Nat) := by omega
  have hexponent : Text.intText ((digits.length : Int) + k - 1) =
      natText (digits.length + k - 1) := by
    rw [hpoint, Text.intText, if_neg (by omega), Int.natAbs_natCast]
  unfold digitsText
  simp only
  rw [hmost, if_neg (by omega), if_neg (by omega), if_neg (by omega), hexponent]
  match digits with
  | [first] => rfl
  | first :: next :: rest => rfl

/-- **A number of more than 96 bits is written with an exponent of at least 28**, and its
digits with that exponent stand for no less than `2 ^ 96`. -/
theorem text_of_le (h : x.WellFormed) (hlarge : 2 ^ 96 ≤ |x.toRat|) :
    ∃ d k : Nat, twoPow 96 ≤ d * tenPow k ∧ 29 ≤ (natText d).length + k ∧
      ((natText d).length + k = 29 → 12 ≤ k) ∧
      x.text = (if x.negative then ['-'] else []) ++ pointed (natText d) ++
        'e' :: natText ((natText d).length + k - 1) := by
  obtain ⟨d, k, hshortest, hvalue, hfew⟩ := shortest_of_le h hlarge
  have hlength : 29 ≤ (natText d).length + k := by
    by_contra hshort
    have hless : twoPow 96 < tenPow 28 :=
      (hvalue.trans_lt (mul_tenPow_lt d k)).trans_le (tenPow_le (by omega))
    exact absurd hless (by decide)
  have hnonzero : x.isZero = false := by
    have := (le_exponent_of_le h hlarge).2
    have := twoPow_pos 52
    simp only [isZero, beq_eq_false_iff_ne]
    omega
  refine ⟨d, k, hvalue, hlength, fun hfirst => hfew hfirst.le, ?_⟩
  rw [text, hshortest, hnonzero]
  simp only [Bool.false_eq_true, if_false]
  rw [digitsText_of_lt (Text.natText_ne_nil d) (by omega)]
  cases x.negative <;> rfl

end DynamicSql.Binary64

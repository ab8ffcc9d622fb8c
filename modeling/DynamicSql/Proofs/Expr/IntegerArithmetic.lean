import DynamicSql.Expr.Operators

/-!
# Arithmetic on integers

What an arithmetic operator should come to is said for all integers, without 64 bits and without
division in it (`Exact`).  On two 64-bit integers the operators come to just that where it fits,
and overflow where it does not, with one exception: the remainder of the least integer by minus
one is zero, but counts as an overflow, since the quotient is one (`integer_arithmetic`,
`remainder_of_least`).
-/

namespace DynamicSql.Operators

/-! ## Exact results -/

/-- Division toward zero.  The remainder is smaller than the divisor and has the sign of the
dividend. -/
structure Truncates (a b quotient remainder : Int) : Prop where
  sum : a = b * quotient + remainder
  small : remainder.natAbs < b.natAbs
  nonneg : 0 ≤ a → 0 ≤ remainder
  nonpos : a ≤ 0 → remainder ≤ 0

/-- What the arithmetic operators come to on integers of any size. -/
inductive Exact : BinaryOp → Int → Int → Int → Prop
  | add (a b : Int) : Exact .add a b (a + b)
  | subtract (a b : Int) : Exact .subtract a b (a - b)
  | multiply (a b : Int) : Exact .multiply a b (a * b)
  | divide {a b quotient remainder : Int} (h : Truncates a b quotient remainder) :
      Exact .divide a b quotient
  | modulo {a b quotient remainder : Int} (h : Truncates a b quotient remainder) :
      Exact .modulo a b remainder

/-- Whether an operator is one of arithmetic. -/
def isArithmetic : BinaryOp → Bool
  | .add | .subtract | .multiply | .divide | .modulo => true
  | _ => false

/-- Whether an integer has 64 bits. -/
def Fits64 (i : Int) : Prop := int64Least ≤ i ∧ i ≤ int64Greatest

/-- The remainder of the least integer by minus one. -/
def RemainderOfLeast (op : BinaryOp) (a b : Int) : Prop :=
  op = .modulo ∧ a = int64Least ∧ b = -1

section

variable {op : BinaryOp} {a b r s : Int}

/-- Unless the divisor is zero, there is a quotient and a remainder. -/
theorem truncates_tdiv_tmod (a : Int) (hb : b ≠ 0) :
    Truncates a b (a.tdiv b) (a.tmod b) where
  sum := (Int.mul_tdiv_add_tmod a b).symm
  small := by
    rw [Int.natAbs_tmod]
    exact Nat.mod_lt _ (Int.natAbs_pos.2 hb)
  nonneg := fun ha => Int.tmod_nonneg b ha
  nonpos := by
    intro ha
    have hopposite : 0 ≤ (-a).tmod b := Int.tmod_nonneg b (Int.neg_nonneg.2 ha)
    rw [Int.neg_tmod] at hopposite
    omega

theorem Truncates.ne_zero {q : Int} (h : Truncates a b q r) : b ≠ 0 := by
  have hsmall := h.small
  omega

/-- There is only one quotient and one remainder. -/
theorem Truncates.unique {q : Int} (h : Truncates a b q r) : a.tdiv b = q ∧ a.tmod b = r := by
  have hb : b ≠ 0 := h.ne_zero
  obtain ⟨hsum, hsmall, hnonneg, hnonpos⟩ := h
  rcases Int.le_total 0 a with ha | ha
  · have hr : 0 ≤ r := hnonneg ha
    exact (Int.tdiv_tmod_unique ha hb).2 ⟨by omega, hr, by omega⟩
  · have hr : r ≤ 0 := hnonpos ha
    exact (Int.tdiv_tmod_unique' ha hb).2 ⟨by omega, by omega, hr⟩

/-- The operators compute the exact result, which there is unless the divisor is zero. -/
theorem exact_iff :
    Exact op a b r ↔ exactResult? op a b = some r ∧ (divides op = true → b ≠ 0) := by
  constructor
  · intro h
    cases h with
    | divide h | modulo h =>
      obtain ⟨rfl, rfl⟩ := h.unique
      exact ⟨rfl, fun _ => h.ne_zero⟩
    | _ => exact ⟨rfl, by simp [divides]⟩
  · rintro ⟨h, hb⟩
    cases op <;> simp only [exactResult?, Option.some.injEq, reduceCtorEq] at h <;> subst h
    case add => exact .add a b
    case subtract => exact .subtract a b
    case multiply => exact .multiply a b
    case divide => exact .divide (truncates_tdiv_tmod a (hb rfl))
    case modulo => exact .modulo (truncates_tdiv_tmod a (hb rfl))

theorem divides_iff : divides op = true ↔ op = .divide ∨ op = .modulo := by
  cases op <;> simp [divides]

theorem exists_exact (hop : isArithmetic op = true) (hb : divides op = true → b ≠ 0) :
    ∃ r, Exact op a b r := by
  have h : ∃ r, exactResult? op a b = some r := by
    cases op with
    | add | subtract | multiply | divide | modulo => exact ⟨_, rfl⟩
    | _ => cases hop
  obtain ⟨r, hr⟩ := h
  exact ⟨r, exact_iff.2 ⟨hr, hb⟩⟩

theorem Exact.unique (hr : Exact op a b r) (hs : Exact op a b s) : r = s :=
  Option.some.inj ((exact_iff.1 hr).1.symm.trans (exact_iff.1 hs).1)

end

/-! ## What the operators come to -/

/-- The ways in which an arithmetic operator comes to a result. -/
inductive Outcome (op : BinaryOp) (a b : Int) : Except ExprError Value → Prop
  | zero (hop : divides op = true) (hb : b = 0) : Outcome op a b (.error .divisionByZero)
  | least (h : RemainderOfLeast op a b) : Outcome op a b (.error (.overflow op.symbol))
  | exact {r : Int} (h : Exact op a b r) (hleast : ¬RemainderOfLeast op a b) :
      Outcome op a b (checked op.symbol r)

section

variable {heap : Heap} {op : BinaryOp} {a b : Int64}

theorem integers_of_zero (hop : divides op = true) (hb : b.toInt = 0) :
    integers heap op a b = .error .divisionByZero := by
  have hzero : b = 0 := Int64.toInt_inj.1 hb
  simp [integers, hop, hzero]

theorem integers_of_remainderOfLeast (h : RemainderOfLeast op a.toInt b.toInt) :
    integers heap op a b = .error (.overflow op.symbol) := by
  obtain ⟨rfl, ha, hb⟩ := h
  have hzero : b ≠ 0 := by
    rintro rfl
    cases hb
  simp [integers, divides, quotientOverflows, ha, hb, hzero]

/-- Apart from both, the exact result is checked for its size. -/
theorem integers_of_exact {r : Int} (h : Exact op a.toInt b.toInt r)
    (hleast : ¬RemainderOfLeast op a.toInt b.toInt) :
    integers heap op a b = checked op.symbol r := by
  obtain ⟨hresult, hb⟩ := exact_iff.1 h
  have hzero : (divides op && b == 0) = false := by
    rw [Bool.and_eq_false_imp]
    intro hdivides
    rw [beq_eq_false_iff_ne]
    rintro rfl
    exact hb hdivides rfl
  have hquotient : quotientOverflows op a.toInt b.toInt = false := by
    rw [← Bool.not_eq_true]
    intro hover
    simp only [quotientOverflows, Bool.and_eq_true, beq_iff_eq] at hover
    exact hleast ⟨hover.1.1, hover.1.2, hover.2⟩
  rw [integers, hzero, hquotient, hresult]
  rfl

theorem outcome_binary (hop : isArithmetic op = true) :
    Outcome op a.toInt b.toInt (binary heap op (.integer a) (.integer b)) := by
  have hbinary : binary heap op (.integer a) (.integer b) = integers heap op a b := by
    cases op with
    | add | subtract | multiply | divide | modulo => rfl
    | _ => cases hop
  rw [hbinary]
  by_cases hzero : divides op = true ∧ b.toInt = 0
  · rw [integers_of_zero hzero.1 hzero.2]
    exact .zero hzero.1 hzero.2
  · by_cases hleast : RemainderOfLeast op a.toInt b.toInt
    · rw [integers_of_remainderOfLeast hleast]
      exact .least hleast
    · obtain ⟨r, hr⟩ : ∃ r, Exact op a.toInt b.toInt r :=
        exists_exact hop fun hdivides hb => hzero ⟨hdivides, hb⟩
      rw [integers_of_exact hr hleast]
      exact .exact hr hleast

end

section

variable {symbol : String} {r : Int} {n : Int64}

theorem checked_eq_ok_iff : checked symbol r = .ok (.integer n) ↔ n.toInt = r := by
  rw [← int64?_eq_some_iff]
  cases h : int64? r <;> simp [checked, h]

theorem checked_eq_overflow_iff : checked symbol r = .error (.overflow symbol) ↔ ¬Fits64 r := by
  rw [Fits64, ← int64?_eq_none_iff]
  cases h : int64? r <;> simp [checked, h]

theorem checked_cases (symbol : String) (r : Int) :
    (∃ n, checked symbol r = .ok (.integer n)) ∨ checked symbol r = .error (.overflow symbol) := by
  cases h : int64? r <;> simp [checked, h]

end

namespace Outcome

variable {op : BinaryOp} {a b : Int} {result : Except ExprError Value}

theorem eq_ok_iff (h : Outcome op a b result) (n : Int64) :
    result = .ok (.integer n) ↔ Exact op a b n.toInt ∧ ¬RemainderOfLeast op a b := by
  cases h with
  | zero hop hb => simp [exact_iff, hop, hb]
  | least h => simp [h]
  | exact h hleast =>
    rw [checked_eq_ok_iff, and_iff_left hleast]
    constructor
    · rintro rfl
      exact h
    · intro hn
      exact hn.unique h

theorem eq_overflow_iff (h : Outcome op a b result) :
    result = .error (.overflow op.symbol) ↔
      (∃ r, Exact op a b r ∧ ¬Fits64 r) ∨ RemainderOfLeast op a b := by
  cases h with
  | zero hop hb => simp [exact_iff, hop, hb, RemainderOfLeast]
  | least h => simp [h]
  | @exact r h hleast =>
    rw [checked_eq_overflow_iff, or_iff_left hleast]
    constructor
    · intro hr
      exact ⟨r, h, hr⟩
    · rintro ⟨s, hs, hfits⟩
      rwa [h.unique hs]

theorem eq_divisionByZero_iff (h : Outcome op a b result) :
    result = .error .divisionByZero ↔ divides op = true ∧ b = 0 := by
  cases h with
  | zero hop hb => simp [hop, hb]
  | least h =>
    obtain ⟨rfl, -, rfl⟩ := h
    simp
  | @exact r h hleast =>
    constructor
    · intro hresult
      rcases checked_cases op.symbol r with ⟨n, hn⟩ | hn <;> rw [hn] at hresult <;> cases hresult
    · rintro ⟨hop, hb⟩
      exact absurd hb ((exact_iff.1 h).2 hop)

theorem cases (h : Outcome op a b result) :
    (∃ n, result = .ok (.integer n)) ∨ result = .error (.overflow op.symbol) ∨
      result = .error .divisionByZero := by
  cases h with
  | zero hop hb => exact .inr (.inr rfl)
  | least h => exact .inr (.inl rfl)
  | @exact r h hleast => exact (checked_cases op.symbol r).imp_right .inl

end Outcome

/-- **Integer arithmetic is exact where the result fits**, also that of the minus sign before an
integer.  It overflows where the exact result does not fit 64 bits, and for the remainder of the
least integer by minus one; it divides by zero where it should.  Nothing else comes of it. -/
theorem integer_arithmetic (heap : Heap) (a b : Int64) :
    (∀ op, isArithmetic op = true →
      (∀ n : Int64, binary heap op (.integer a) (.integer b) = .ok (.integer n) ↔
        Exact op a.toInt b.toInt n.toInt ∧ ¬RemainderOfLeast op a.toInt b.toInt) ∧
      (binary heap op (.integer a) (.integer b) = .error (.overflow op.symbol) ↔
        (∃ r, Exact op a.toInt b.toInt r ∧ ¬Fits64 r) ∨ RemainderOfLeast op a.toInt b.toInt) ∧
      (binary heap op (.integer a) (.integer b) = .error .divisionByZero ↔
        (op = .divide ∨ op = .modulo) ∧ b = 0) ∧
      ((∃ n, binary heap op (.integer a) (.integer b) = .ok (.integer n)) ∨
        binary heap op (.integer a) (.integer b) = .error (.overflow op.symbol) ∨
        binary heap op (.integer a) (.integer b) = .error .divisionByZero)) ∧
    (∀ n : Int64, unary heap .negate (.integer a) = .ok (.integer n) ↔ n.toInt = -a.toInt) ∧
    (unary heap .negate (.integer a) = .error (.overflow "-") ↔ ¬Fits64 (-a.toInt)) ∧
    ((∃ n, unary heap .negate (.integer a) = .ok (.integer n)) ∨
      unary heap .negate (.integer a) = .error (.overflow "-")) := by
  refine ⟨fun op hop => ?_, fun n => checked_eq_ok_iff, checked_eq_overflow_iff,
    checked_cases _ _⟩
  have houtcome : Outcome op a.toInt b.toInt (binary heap op (.integer a) (.integer b)) :=
    outcome_binary hop
  refine ⟨houtcome.eq_ok_iff, houtcome.eq_overflow_iff, ?_, houtcome.cases⟩
  rw [houtcome.eq_divisionByZero_iff, divides_iff, ← Int64.toInt_inj]
  rfl

/-- Division goes toward zero, the remainder has the sign of the dividend, and the least integer
has no opposite of 64 bits. -/
theorem integer_arithmetic_seven :
    isArithmetic .divide = true ∧ isArithmetic .modulo = true ∧
      binary .empty .divide (.integer (-7)) (.integer 2) = .ok (.integer (-3)) ∧
      binary .empty .modulo (.integer (-7)) (.integer 2) = .ok (.integer (-1)) ∧
      binary .empty .modulo (.integer (-7)) (.integer 0) = .error .divisionByZero ∧
      unary .empty .negate (.integer Int64.minValue) = .error (.overflow "-") := by
  have htruncates : Truncates (-7) 2 (-3) (-1) := ⟨by decide, by decide, by decide, by decide⟩
  obtain ⟨hseven, -⟩ := integer_arithmetic .empty (-7) 2
  obtain ⟨hzero, -⟩ := integer_arithmetic .empty (-7) 0
  obtain ⟨-, -, hleast, -⟩ := integer_arithmetic .empty Int64.minValue 0
  refine ⟨rfl, rfl, ?_, ?_, ?_, ?_⟩
  · exact ((hseven .divide rfl).1 (-3)).2 ⟨.divide htruncates, by simp [RemainderOfLeast]⟩
  · exact ((hseven .modulo rfl).1 (-1)).2 ⟨.modulo htruncates, by simp [RemainderOfLeast]⟩
  · exact (hzero .modulo rfl).2.2.1.2 ⟨.inr rfl, rfl⟩
  · refine hleast.2 ?_
    unfold Fits64
    decide

/-- The remainder of the least integer by minus one exists and fits, and of the same numbers as
decimals it is found; but of integers it overflows. -/
theorem remainder_of_least :
    Exact .modulo Int64.minValue.toInt (-1) 0 ∧ Fits64 0 ∧
      binary .empty .modulo (.decimal (.ofInt64 Int64.minValue)) (.integer (-1)) =
        .ok (.decimal .zero) ∧
      binary .empty .modulo (.integer Int64.minValue) (.integer (-1)) =
        .error (.overflow "%") := by
  have hexact : Exact .modulo Int64.minValue.toInt (-1) 0 :=
    exact_iff.2 ⟨by decide, fun _ => by decide⟩
  have hremainder : (Decimal.ofInt64 Int64.minValue).rem (.ofInt64 (-1)) = some .zero := by
    decide +kernel
  have hdivisor : (Decimal.ofInt64 (-1)).isZero = false := rfl
  refine ⟨hexact, by unfold Fits64; decide, ?_, rfl⟩
  change decimals .empty .modulo (.ofInt64 Int64.minValue) (.ofInt64 (-1)) = _
  simp [decimals, hdivisor, hremainder]

end DynamicSql.Operators

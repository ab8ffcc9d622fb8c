import DynamicSql.Expr.Operators
import DynamicSql.Proofs.Value.Equality

/-!
# Comparison operators

Equality looks at values in one way and the order operators look at them in another: integers
are compared as they are, other numbers as decimals, texts character by character.  But for two
numbers and for two texts there is one ordering that all operators read
(`Comparable.exists_ordering`), and no other values have one (`comparable_of_compare?`).  So the
operators are a total order with the equality of values as its equality: `order_operators`.
-/

namespace DynamicSql.Operators

/-- Two numbers, of whatever kinds, or two texts. -/
inductive Comparable : Value → Value → Prop
  | numbers {a b : Value} {p q : Rat} (ha : a.number? = some p) (hb : b.number? = some q) :
      Comparable a b
  | texts (s t : String) : Comparable (.string s) (.string t)

/-- An operator has a truth value on two values. -/
def Answers (heap : Heap) (op : BinaryOp) (a b : Value) (answer : Bool) : Prop :=
  binary heap op a b = .ok (.boolean answer)

/-! ## The ordering of two values -/

section

variable {a b c : Value} {o : Ordering}

theorem compare_mkRat_one (i j : Int64) :
    compare (mkRat i.toInt 1) (mkRat j.toInt 1) = Ord.compare i.toInt j.toInt := by
  have h := Decimal.compare_eq (.ofInt64 i) (.ofInt64 j)
  rw [Decimal.toRat_ofInt64, Decimal.toRat_ofInt64, Decimal.compare, Decimal.signed_ofInt64,
    Decimal.signed_ofInt64] at h
  simpa [Decimal.ofInt64, Decimal.ofInt, tenPow] using h.symm

/-- Two numbers are compared as numbers. -/
theorem compare?_of_number? {p q : Rat} (ha : a.number? = some p) (hb : b.number? = some q) :
    compare? a b = some (compare p q) := by
  obtain ⟨i, rfl, rfl⟩ | ⟨d, rfl, rfl⟩ := Value.number?_cases ha <;>
    obtain ⟨j, rfl, rfl⟩ | ⟨e, rfl, rfl⟩ := Value.number?_cases hb
  · rw [compare_mkRat_one]
    rfl
  all_goals simp [compare?, toDecimal?, Decimal.compare_eq]

/-- Two texts are compared as texts. -/
theorem compare?_string (s t : String) :
    compare? (.string s) (.string t) = some (compare s t) := rfl

/-- Only two numbers and two texts are compared. -/
theorem comparable_of_compare? (h : compare? a b = some o) : Comparable a b := by
  cases a <;> cases b <;> simp [compare?, toDecimal?] at h
  case string.string s t => exact .texts s t
  all_goals exact .numbers rfl rfl

/-- There is one ordering of two numbers or two texts; the other way round it is reversed, and
it says that they are equal exactly if they are equal values. -/
theorem Comparable.exists_ordering (h : Comparable a b) :
    ∃ o, compare? a b = some o ∧ compare? b a = some o.swap ∧ a.same b = (o == .eq) := by
  cases h with
  | @numbers _ _ p q ha hb =>
    refine ⟨compare p q, compare?_of_number? ha hb, ?_, ?_⟩
    · rw [compare?_of_number? hb ha, Std.OrientedOrd.eq_swap]
    · rw [Bool.eq_iff_iff, Value.same_iff_number? ha hb, beq_iff_eq, compare_eq_iff_eq]
  | texts s t =>
    refine ⟨compare s t, compare?_string s t, ?_, ?_⟩
    · rw [compare?_string, Std.OrientedOrd.eq_swap]
    · rw [Bool.eq_iff_iff, beq_iff_eq, Std.LawfulEqOrd.compare_eq_iff_eq]
      simp [Value.same]

theorem compare?_lt_trans (hab : compare? a b = some .lt) (hbc : compare? b c = some .lt) :
    compare? a c = some .lt := by
  cases comparable_of_compare? hab with
  | @numbers _ _ p q ha hb =>
    cases comparable_of_compare? hbc with
    | @numbers _ _ q' r hb' hc =>
      obtain rfl : q = q' := Option.some.inj (hb.symm.trans hb')
      rw [compare?_of_number? ha hb, Option.some.injEq] at hab
      rw [compare?_of_number? hb hc, Option.some.injEq] at hbc
      rw [compare?_of_number? ha hc, Std.TransCmp.lt_trans hab hbc]
    | texts s t => cases hb
  | texts s t =>
    cases comparable_of_compare? hbc with
    | numbers hb hc => cases hb
    | texts t u =>
      rw [compare?_string, Option.some.injEq] at hab hbc ⊢
      exact Std.TransCmp.lt_trans hab hbc

end

/-! ## The operators -/

section

variable {heap : Heap} {op : BinaryOp} {a b : Value} {o : Ordering} {answer : Bool}

/-- An order operator reads the ordering of its operands. -/
theorem order_of_compare? (h : compare? a b = some o) (hop : holds op o = some answer) :
    order heap op a b = .ok (.boolean answer) := by
  simp [order, h, hop]

/-- Without an ordering an order operator fails. -/
theorem order_of_not_comparable (h : ¬Comparable a b) :
    order heap op a b = .error (mismatch heap op a b) := by
  have hnone : compare? a b = none := by
    cases ho : compare? a b with
    | none => rfl
    | some o => exact absurd (comparable_of_compare? ho) h
  simp [order, hnone]

theorem compare?_of_answers (h : Answers heap .less a b true) : compare? a b = some .lt := by
  change order heap .less a b = _ at h
  cases ho : compare? a b with
  | none => simp [order, ho] at h
  | some o => simpa [order, ho, holds] using h

end

/-- **The comparison operators are one total order.**  Of two numbers and of two texts exactly
one is less than the other or they are equal, `<=` is `<` or `==`, and `>` and `>=` are `<` and
`<=` the other way round; `<` is transitive.  On all other values the order operators fail, and
on all values `!=` is the opposite of `==`. -/
theorem order_operators (heap : Heap) :
    (∀ a b : Value, Comparable a b → ∃ less equal greater : Bool,
      Answers heap .less a b less ∧ Answers heap .equal a b equal ∧
        Answers heap .greater a b greater ∧ [less, equal, greater].count true = 1 ∧
        Answers heap .lessEqual a b (less || equal) ∧
        binary heap .greater a b = binary heap .less b a ∧
        binary heap .greaterEqual a b = binary heap .lessEqual b a) ∧
    (∀ a b c : Value, Answers heap .less a b true → Answers heap .less b c true →
      Answers heap .less a c true) ∧
    (∀ a b : Value, ¬Comparable a b →
      ∀ op ∈ [BinaryOp.less, .lessEqual, .greater, .greaterEqual],
        binary heap op a b = .error (.typeMismatch op.symbol (heap.kind a) (heap.kind b))) ∧
    ∀ a b : Value, ∃ equal : Bool,
      Answers heap .equal a b equal ∧ Answers heap .notEqual a b (!equal) := by
  refine ⟨?total, ?transitive, ?others, ?equality⟩
  case total =>
    intro a b h
    obtain ⟨o, hab, hba, hsame⟩ := h.exists_ordering
    have hequal : Answers heap .equal a b (o == .eq) := by rw [← hsame]; rfl
    refine ⟨o == .lt, o == .eq, o == .gt, order_of_compare? hab rfl, hequal,
      order_of_compare? hab rfl, by cases o <;> rfl, ?_, ?_, ?_⟩
    · exact order_of_compare? hab (by cases o <;> rfl)
    · refine (order_of_compare? hab rfl).trans (order_of_compare? hba ?_).symm
      cases o <;> rfl
    · refine (order_of_compare? hab rfl).trans (order_of_compare? hba ?_).symm
      cases o <;> rfl
  case transitive =>
    intro a b c hab hbc
    have hac := compare?_lt_trans (compare?_of_answers hab) (compare?_of_answers hbc)
    exact order_of_compare? hac rfl
  case others =>
    intro a b h op hop
    simp only [List.mem_cons, List.not_mem_nil, or_false] at hop
    rcases hop with rfl | rfl | rfl | rfl <;> exact order_of_not_comparable h
  case equality =>
    intro a b
    exact ⟨a.same b, rfl, rfl⟩

/-- Two and a half. -/
def twoAndHalf : Value := .decimal (.tenths 25)

/-- Two is less than two and a half, and this is less than three, so two is less than three; but
a number is not compared with a text. -/
theorem order_operators_half :
    Comparable (.integer 2) twoAndHalf ∧
      binary .empty .greaterEqual (.integer 2) twoAndHalf =
        binary .empty .lessEqual twoAndHalf (.integer 2) ∧
      Answers .empty .less (.integer 2) twoAndHalf true ∧
      Answers .empty .less twoAndHalf (.integer 3) true ∧
      Answers .empty .less (.integer 2) (.integer 3) true ∧
      ¬Comparable twoAndHalf (.string "3") ∧
      binary .empty .less twoAndHalf (.string "3") =
        .error (.typeMismatch "<" "decimal" "string") := by
  obtain ⟨htotal, htransitive, hothers, -⟩ := order_operators .empty
  have hcomparable : Comparable (.integer 2) twoAndHalf := .numbers rfl rfl
  have htexts : ¬Comparable twoAndHalf (.string "3") := by
    intro h
    cases h with
    | numbers hnumber htext => cases htext
  obtain ⟨less, equal, greater, -, -, -, -, -, -, hturned⟩ := htotal _ _ hcomparable
  have hlow : Answers .empty .less (.integer 2) twoAndHalf true := rfl
  have hhigh : Answers .empty .less twoAndHalf (.integer 3) true := rfl
  exact ⟨hcomparable, hturned, hlow, hhigh, htransitive _ _ _ hlow hhigh, htexts,
    hothers _ _ htexts .less (by decide)⟩

end DynamicSql.Operators

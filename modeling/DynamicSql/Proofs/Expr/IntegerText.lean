import DynamicSql.Proofs.Expr.Roundtrip
import DynamicSql.Rendering.Context

/-!
# Integers written as expressions

The text of an integer that is not negative is a literal, and that of a negative one is the
minus sign before the literal of its opposite.  The least integer has no opposite of 64 bits, so
its text is no expression; all others are read back from their text (`evaluate_integerText`).
-/

namespace DynamicSql

open Grammar

/-! ## The tokens of a numeral -/

section

variable {n m : Int64}

theorem integerText_eq (n : Int64) : Value.integerText n = Layout.tight.text [.integer n] := by
  simp [Value.integerText, Layout.text, Layout.chars, Layout.tight, Token.spelling]

/-- A negative integer is written as its opposite behind a minus sign. -/
theorem integerText_of_neg (hneg : n.toInt < 0) (hm : m.toInt = -n.toInt) :
    Value.integerText n = Layout.tight.text [.minus, .integer m] := by
  have hnonneg : ¬m.toInt < 0 := by omega
  have habs : m.toInt.natAbs = n.toInt.natAbs := by omega
  simp [Value.integerText, Layout.text, Layout.chars, Layout.tight, Token.spelling, Text.intText,
    hneg, hnonneg, habs]

/-- Every integer but the least has an opposite. -/
theorem exists_opposite (hleast : n ≠ Int64.minValue) : ∃ m : Int64, m.toInt = -n.toInt := by
  have hrange : int64Least ≤ -n.toInt ∧ -n.toInt ≤ int64Greatest := by
    have hne : n.toInt ≠ Int64.minValue.toInt := fun h => hleast (Int64.toInt_inj.1 h)
    have hmin : Int64.minValue.toInt = -9223372036854775808 := rfl
    have hlow := Int64.le_toInt n
    have hhigh := Int64.toInt_lt n
    unfold int64Least int64Greatest
    omega
  exact ⟨Int64.ofInt (-n.toInt), toInt_of_int64? (if_pos hrange)⟩

end

/-! ## Reading numerals -/

section

variable {n m : Int64}

/-- An integer that is not negative is read as a literal. -/
theorem parse_integerText (h : 0 ≤ n.toInt) :
    Statement.parse (Value.integerText n) = .ok (.expr (.literal (.integer n))) := by
  have hliteral : Derives .or [.integer n] (.literal (.integer n)) :=
    (Derives.literal (.integer n)).loosen (by decide)
  rw [integerText_eq]
  refine Layout.tight.parse_text (.expr hliteral) ?_
  intro token htoken
  obtain rfl := List.mem_singleton.1 htoken
  exact h

/-- A negative integer is read as the negation of its opposite. -/
theorem parse_integerText_of_neg (hneg : n.toInt < 0) (hm : m.toInt = -n.toInt) :
    Statement.parse (Value.integerText n) =
      .ok (.expr (.unary .negate (.literal (.integer m)))) := by
  have hliteral : Derives .unary [.integer m] (.literal (.integer m)) :=
    (Derives.literal (.integer m)).loosen (by decide)
  have hnegation : Derives .or [.minus, .integer m] (.unary .negate (.literal (.integer m))) :=
    (Derives.negate hliteral).loosen (by decide)
  rw [integerText_of_neg hneg hm]
  refine Layout.tight.parse_text (.expr hnegation) ?_
  intro token htoken
  simp only [List.mem_cons, List.not_mem_nil, or_false] at htoken
  rcases htoken with rfl | rfl
  · trivial
  · change 0 ≤ m.toInt
    omega

/-- The digits of the least integer are no literal. -/
theorem parse_integerText_least :
    Statement.parse (Value.integerText Int64.minValue) =
      .error ⟨.integerOutOfRange "9223372036854775808", 1⟩ := by
  rfl

/-- Every integer but the least is the value of its text. -/
theorem reference_integerText (heap : Heap) (lookup : Lookup) (hleast : n ≠ Int64.minValue) :
    Evaluator.reference heap lookup (Value.integerText n) = ⟨.ok (.integer n), []⟩ := by
  unfold Evaluator.reference
  by_cases hneg : n.toInt < 0
  · obtain ⟨m, hm⟩ := exists_opposite hleast
    have hopposite : int64? (-m.toInt) = some n := by
      rw [int64?_eq_some_iff, hm, Int.neg_neg]
    rw [parse_integerText_of_neg hneg hm]
    simp [Statement.eval, Expr.eval, Operators.unary, Operators.checked, hopposite, bind,
      Except.bind]
  · rw [parse_integerText (Int.not_lt.1 hneg)]
    rfl

end

/-! ## Evaluating numerals in a context -/

namespace Context

section

variable {engine : Engine} (context : Context) (heap : Heap) (n : Int64)

/-- Where evaluating the text of an integer assigns nothing, the context stays as it is. -/
theorem evaluate_text_integer (hengine : engine.evaluator = .reference)
    {outcome : Except ExprError Value}
    (h : Evaluator.reference heap (context.bindings.resolve heap) (Value.integerText n) =
      ⟨outcome, []⟩) :
    context.evaluate engine heap (heap.text (.integer n)) =
      (outcome.mapError .expr, context) := by
  have htext : heap.text (.integer n) = Value.integerText n := by
    rw [Heap.text, Value.textWith]
  rw [htext, evaluate, hengine, h]
  rfl

/-- The text of the least integer is refused in every context. -/
theorem evaluate_text_least (hengine : engine.evaluator = .reference) :
    context.evaluate engine heap (heap.text (.integer Int64.minValue)) =
      (.error (.expr (.parse ⟨.integerOutOfRange "9223372036854775808", 1⟩)), context) := by
  have hrefused : Evaluator.reference heap (context.bindings.resolve heap)
      (Value.integerText Int64.minValue) =
        ⟨.error (.parse ⟨.integerOutOfRange "9223372036854775808", 1⟩), []⟩ := by
    rw [Evaluator.reference, parse_integerText_least]
  exact context.evaluate_text_integer heap _ hengine hrefused

end

/-- **Every integer but the least is read back from its text**, whatever the context, and the
context stays as it is.  The text of the least integer is refused, since its digits are read
without the minus sign. -/
theorem evaluate_integerText {engine : Engine} (context : Context) (heap : Heap)
    (hengine : engine.evaluator = .reference) (n : Int64) :
    (n ≠ Int64.minValue →
      context.evaluate engine heap (heap.text (.integer n)) = (.ok (.integer n), context)) ∧
    (n = Int64.minValue →
      context.evaluate engine heap (heap.text (.integer n)) =
        (.error (.expr (.parse ⟨.integerOutOfRange "9223372036854775808", 1⟩)), context)) := by
  constructor
  · intro hleast
    exact context.evaluate_text_integer heap n hengine (reference_integerText heap _ hleast)
  · rintro rfl
    exact context.evaluate_text_least heap hengine

/-- The context of a request for one page. -/
def page : Context := .new (.new .default) .empty (.map [("page", .integer 3)])

/-- The integer next to the least one is read back from its text, and so is the greatest; the
least one itself is not. -/
theorem evaluate_integerText_ends :
    (Engine.new .default).evaluator = .reference ∧
      Int64.ofInt (-9223372036854775807) ≠ Int64.minValue ∧
      page.evaluate (.new .default) .empty
          (Heap.empty.text (.integer (Int64.ofInt (-9223372036854775807)))) =
        (.ok (.integer (Int64.ofInt (-9223372036854775807))), page) ∧
      Int64.maxValue ≠ Int64.minValue ∧
      page.evaluate (.new .default) .empty (Heap.empty.text (.integer Int64.maxValue)) =
        (.ok (.integer Int64.maxValue), page) ∧
      page.evaluate (.new .default) .empty (Heap.empty.text (.integer Int64.minValue)) =
        (.error (.expr (.parse ⟨.integerOutOfRange "9223372036854775808", 1⟩)), page) := by
  have hengine : (Engine.new .default).evaluator = .reference := rfl
  have hlow : Int64.ofInt (-9223372036854775807) ≠ Int64.minValue := by decide
  have hhigh : Int64.maxValue ≠ Int64.minValue := by decide
  have hlowest := (evaluate_integerText page .empty hengine _).1 hlow
  have hhighest := (evaluate_integerText page .empty hengine _).1 hhigh
  have hleast := (evaluate_integerText page .empty hengine _).2 rfl
  exact ⟨hengine, hlow, hlowest, hhigh, hhighest, hleast⟩

/-- The least integer is not read back from its text. -/
theorem least_integer_unread :
    page.evaluate (.new .default) .empty (Heap.empty.text (.integer Int64.minValue)) ≠
      (.ok (.integer Int64.minValue), page) := by
  intro h
  rw [page.evaluate_text_least .empty rfl] at h
  cases congrArg Prod.fst h

end Context

end DynamicSql

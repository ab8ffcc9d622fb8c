import DynamicSql.Expr.Grammar
import DynamicSql.Expr.Parser

/-!
# Levels of the grammar

The categories of the grammar form one chain, and the operators that a category
joins are those of one level of the parser.  An expression of a category is one
of every looser category too.
-/

namespace DynamicSql

namespace Grammar

namespace Category

/-- The place of a category in the chain; up to six it is the level of its operators. -/
def level : Category → Nat
  | or => 1
  | and => 2
  | equality => 3
  | comparison => 4
  | additive => 5
  | multiplicative => 6
  | unary => 7
  | navigation => 8
  | primary => 9

theorem eq_of_level {c d : Category} (h : c.level = d.level) : c = d := by
  cases c <;> cases d <;> first | rfl | cases h

/-- Below the tightest category there is always a next one. -/
theorem exists_level_succ {c d : Category} (h : c.level < d.level) :
    ∃ c' : Category, c'.level = c.level + 1 := by
  cases c
  case or => exact ⟨and, rfl⟩
  case and => exact ⟨equality, rfl⟩
  case equality => exact ⟨comparison, rfl⟩
  case comparison => exact ⟨additive, rfl⟩
  case additive => exact ⟨multiplicative, rfl⟩
  case multiplicative => exact ⟨unary, rfl⟩
  case unary => exact ⟨navigation, rfl⟩
  case navigation => exact ⟨primary, rfl⟩
  case primary => cases d <;> simp [level] at h

theorem level_operand? {c d : Category} (h : c.operand? = some d) :
    d.level = c.level + 1 ∧ c.level ≤ 6 := by
  cases c <;> cases h <;> decide

theorem level_operator? {c : Category} {token : Token} {op : BinaryOp}
    (h : c.operator? token = some op) : token.binaryOp? = some op ∧ op.level = c.level := by
  unfold operator? at h
  split at h <;> cases h <;> exact ⟨rfl, rfl⟩

/-- Every operator joins the operands of a category. -/
theorem exists_operator? {token : Token} {op : BinaryOp} (h : token.binaryOp? = some op) :
    ∃ c d : Category, c.operator? token = some op ∧ c.operand? = some d ∧ c.level = op.level := by
  unfold Token.binaryOp? at h
  split at h <;> cases h
  case h_1 | h_2 => exact ⟨additive, _, rfl, rfl, rfl⟩
  case h_3 | h_4 | h_5 => exact ⟨multiplicative, _, rfl, rfl, rfl⟩
  case h_6 | h_7 => exact ⟨equality, _, rfl, rfl, rfl⟩
  case h_8 | h_9 | h_10 | h_11 => exact ⟨comparison, _, rfl, rfl, rfl⟩
  case h_12 => exact ⟨and, _, rfl, rfl, rfl⟩
  case h_13 => exact ⟨or, _, rfl, rfl, rfl⟩

end Category

/-- An expression is one of the next looser category. -/
theorem Derives.step {c d : Category} {ts : List Token} {e : Expr} (h : Derives d ts e)
    (hlevel : d.level = c.level + 1) : Derives c ts e := by
  cases c <;> cases d <;> cases hlevel
  case unary.navigation => exact .navigation h
  case navigation.primary => exact .primary h
  all_goals exact .operand rfl h

/-- An expression is one of every looser category. -/
theorem Derives.loosen {c d : Category} {ts : List Token} {e : Expr} (h : Derives d ts e)
    (hlevel : c.level ≤ d.level) : Derives c ts e := by
  induction hgap : d.level - c.level generalizing c with
  | zero =>
    have hcd : c = d := Category.eq_of_level (by omega)
    exact hcd ▸ h
  | succ gap ih =>
    obtain ⟨c', hc'⟩ := Category.exists_level_succ (c := c) (d := d) (by omega)
    exact (ih (c := c') (by omega) (by omega)).step hc'

/-! ## Names -/

/-- A name is an expression. -/
theorem Named.derives {ts : List Token} {name : String} (h : Named ts name) :
    Derives .primary ts (.ident name) := by
  induction h with
  | bare name => exact .name name
  | group _ ih => exact .group (ih.loosen (by decide))

/-- The only expressions that are names are those of a name, possibly in parentheses. -/
theorem Derives.named {c : Category} {ts : List Token} {name : String}
    (h : Derives c ts (.ident name)) : Named ts name := by
  generalize he : Expr.ident name = e at h
  induction h with
  | name => cases he; exact .bare _
  | group _ ih => exact .group (ih he)
  | primary _ ih => exact ih he
  | navigation _ ih => exact ih he
  | operand _ _ ih => exact ih he
  | literal | property | index | negate | not | join => cases he

/-! ## Literals -/

theorem literal?_decimal (stream : TokenStream) (text : String) :
    Parser.literal? stream (.decimal text) = match Decimal.parse text with
      | .ok d => .ok (some (.decimal d))
      | .error cause => Parser.fail stream (.invalidDecimal text cause) := rfl

theorem denotes_of_literal? {stream : TokenStream} {token : Token} {value : Value}
    (h : Parser.literal? stream token = .ok (some value)) : Denotes token value := by
  cases token
  case decimal text =>
    rw [literal?_decimal] at h
    cases hparse : Decimal.parse text with
    | ok d =>
      rw [hparse] at h
      cases h
      exact .decimal hparse
    | error cause =>
      rw [hparse] at h
      cases h
  all_goals cases h
  all_goals constructor

theorem Denotes.literal? {token : Token} {value : Value} (h : Denotes token value)
    (stream : TokenStream) : Parser.literal? stream token = .ok (some value) := by
  cases h with
  | decimal h => rw [literal?_decimal, h]
  | _ => rfl

/-- Every decimal among the tokens of an expression is in range. -/
theorem Derives.inRange {c : Category} {ts : List Token} {e : Expr} (h : Derives c ts e)
    {text : String} (hmem : Token.decimal text ∈ ts) : ∃ d, Decimal.parse text = .ok d := by
  induction h with
  | literal h =>
    cases List.mem_singleton.1 hmem
    cases h with
    | decimal h => exact ⟨_, h⟩
  | name => simp at hmem
  | join _ ho _ _ iha ihb =>
    rcases List.mem_append.1 hmem with hmem | hmem
    · exact iha hmem
    · rcases List.mem_cons.1 hmem with rfl | hmem
      · have := (Category.level_operator? ho).1
        cases this
      · exact ihb hmem
  | index _ _ ih ihi =>
    rcases List.mem_append.1 hmem with hmem | hmem
    · exact ih hmem
    · exact ihi (by simpa using hmem)
  | _ => simp_all

end Grammar

end DynamicSql

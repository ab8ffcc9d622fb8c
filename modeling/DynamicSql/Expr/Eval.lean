import DynamicSql.Expr.Operators
import DynamicSql.Expr.Parser
import DynamicSql.Navigation.Read

/-!
# Evaluation

Names are looked up through a function, navigation goes through the same reads
as paths, and logical operators look at their right side only when the left one
does not decide.  Evaluation reads objects and never writes them.
-/

namespace DynamicSql

/-- The value of a name. -/
abbrev Lookup := String → Except ExprError Value

/-- Read a property of a value; null has every property. -/
def Value.property (heap : Heap) (base : Value) (name : String) : Except ExprError Value :=
  match base with
  | .null => .ok .null
  | base => (Navigation.getPath heap base name).mapError .access

/-- Read an item, an entry or a property of a value. -/
def Value.at (heap : Heap) (base index : Value) : Except ExprError Value :=
  match base, index with
  | .null, _ => .ok .null
  | .list items, .integer i =>
    match if 0 ≤ i.toInt then items[i.toInt.toNat]? else none with
    | some item => .ok item
    | none => .error (.access (.invalidIndex (Value.integerText i) ""))
  | .map entries, key => .ok ((Entries.get? entries (heap.text key)).getD .null)
  | .object id, .string name => Value.property heap (.object id) name
  | base, index => .error (.typeMismatch "[]" (heap.kind base) (heap.kind index))

/-- The value of an expression. -/
def Expr.eval (heap : Heap) (lookup : Lookup) : Expr → Except ExprError Value
  | literal value => .ok value
  | ident name => lookup name
  | property base name => do (← eval heap lookup base).property heap name
  | index base position => do
    let base ← eval heap lookup base
    let position ← eval heap lookup position
    base.at heap position
  | unary op operand => do Operators.unary heap op (← eval heap lookup operand)
  | binary .and left right => do
    if !(← eval heap lookup left).isTruthy then .ok (.boolean false)
    else .ok (.boolean (← eval heap lookup right).isTruthy)
  | binary .or left right => do
    if (← eval heap lookup left).isTruthy then .ok (.boolean true)
    else .ok (.boolean (← eval heap lookup right).isTruthy)
  | binary op left right => do
    let left ← eval heap lookup left
    let right ← eval heap lookup right
    Operators.binary heap op left right

/-- The values that an evaluation gives to names, in order. -/
abbrev Assignments := List (String × Value)

/-- The outcome of an evaluation and the assignments it makes. -/
structure Evaluated where
  outcome : Except ExprError Value
  assigned : Assignments

/-- The value of a statement; an assignment that fails assigns nothing. -/
def Statement.eval (heap : Heap) (lookup : Lookup) : Statement → Evaluated
  | expr e => ⟨e.eval heap lookup, []⟩
  | assign name e =>
    match e.eval heap lookup with
    | .ok value => ⟨.ok value, [(name, value)]⟩
    | .error error => ⟨.error error, []⟩

/-- Evaluates texts.  It sees the variables through a look-up. -/
abbrev Evaluator := Heap → Lookup → String → Evaluated

/-- The evaluator of the expression language. -/
def Evaluator.reference : Evaluator := fun heap lookup text =>
  match Statement.parse text with
  | .ok statement => statement.eval heap lookup
  | .error error => ⟨.error (.parse error), []⟩

end DynamicSql

import DynamicSql.Expr.Error
import DynamicSql.Value.Equality
import DynamicSql.Decimal.Arithmetic
import DynamicSql.Heap.Text

/-!
# Operators on values

Integers are exact and fail where the result has no 64 bits; with a decimal on
either side the other operand becomes a decimal too.  Division truncates toward
zero and the remainder has the sign of the dividend.  Numbers and texts are
ordered; a plus sign next to a text joins texts.
-/

namespace DynamicSql.Operators

/-- The failure of an operator on two kinds of values. -/
def mismatch (heap : Heap) (op : BinaryOp) (left right : Value) : ExprError :=
  .typeMismatch op.symbol (heap.kind left) (heap.kind right)

/-- An integer result, if it fits 64 bits. -/
def checked (symbol : String) (i : Int) : Except ExprError Value :=
  match int64? i with
  | some i => .ok (.integer i)
  | none => .error (.overflow symbol)

/-- The exact result of an arithmetic operator on integers. -/
def exactResult? : BinaryOp → Int → Int → Option Int
  | .add, a, b => some (a + b)
  | .subtract, a, b => some (a - b)
  | .multiply, a, b => some (a * b)
  | .divide, a, b => some (a.tdiv b)
  | .modulo, a, b => some (a.tmod b)
  | _, _, _ => none

/-- Whether an operator divides. -/
def divides : BinaryOp → Bool
  | .divide | .modulo => true
  | _ => false

/-- The dividend whose quotient does not fit has no remainder either. -/
def quotientOverflows (op : BinaryOp) (a b : Int) : Bool :=
  op == .modulo && a == int64Least && b == -1

/-- An arithmetic operator on two integers. -/
def integers (heap : Heap) (op : BinaryOp) (a b : Int64) : Except ExprError Value :=
  if divides op && b == 0 then .error .divisionByZero
  else if quotientOverflows op a.toInt b.toInt then .error (.overflow op.symbol)
  else
    match exactResult? op a.toInt b.toInt with
    | some result => checked op.symbol result
    | none => .error (mismatch heap op (.integer a) (.integer b))

/-- An arithmetic operator on two decimals. -/
def decimals (heap : Heap) (op : BinaryOp) (a b : Decimal) : Except ExprError Value :=
  if divides op && b.isZero then .error .divisionByZero
  else
    let result (d : Option Decimal) : Except ExprError Value :=
      match d with
      | some d => .ok (.decimal d)
      | none => .error (.overflow op.symbol)
    match op with
    | .add => result (a.add b)
    | .subtract => result (a.sub b)
    | .multiply => result (a.mul b)
    | .divide => result (a.div b)
    | .modulo => result (a.rem b)
    | _ => .error (mismatch heap op (.decimal a) (.decimal b))

/-- The decimal of a number. -/
def toDecimal? : Value → Option Decimal
  | .integer i => some (.ofInt64 i)
  | .decimal d => some d
  | _ => none

/-- An arithmetic operator. -/
def arithmetic (heap : Heap) (op : BinaryOp) (left right : Value) : Except ExprError Value :=
  match left, right with
  | .integer a, .integer b => integers heap op a b
  | left, right =>
    match toDecimal? left, toDecimal? right with
    | some a, some b => decimals heap op a b
    | _, _ => .error (mismatch heap op left right)

/-- The order of two numbers or two texts. -/
def compare? (left right : Value) : Option Ordering :=
  match left, right with
  | .integer a, .integer b => some (Ord.compare a.toInt b.toInt)
  | .string a, .string b => some (if a < b then .lt else if a = b then .eq else .gt)
  | left, right =>
    match toDecimal? left, toDecimal? right with
    | some a, some b => some (a.compare b)
    | _, _ => none

/-- Whether an order relation holds for an ordering. -/
def holds : BinaryOp → Ordering → Option Bool
  | .less, o => some (o == .lt)
  | .lessEqual, o => some (o != .gt)
  | .greater, o => some (o == .gt)
  | .greaterEqual, o => some (o != .lt)
  | _, _ => none

/-- Whether a value is a text. -/
def isText : Value → Bool
  | .string _ => true
  | _ => false

/-- An order operator. -/
def order (heap : Heap) (op : BinaryOp) (left right : Value) : Except ExprError Value :=
  match (compare? left right).bind (holds op) with
  | some b => .ok (.boolean b)
  | none => .error (mismatch heap op left right)

/-- An operator on two values. -/
def binary (heap : Heap) (op : BinaryOp) (left right : Value) : Except ExprError Value :=
  match op with
  | .equal => .ok (.boolean (left.same right))
  | .notEqual => .ok (.boolean (!left.same right))
  | .less | .lessEqual | .greater | .greaterEqual => order heap op left right
  | .add =>
    if isText left || isText right then .ok (.string (heap.text left ++ heap.text right))
    else arithmetic heap .add left right
  | op => arithmetic heap op left right

/-- A prefix operator. -/
def unary (heap : Heap) (op : UnaryOp) (operand : Value) : Except ExprError Value :=
  match op, operand with
  | .not, operand => .ok (.boolean (!operand.isTruthy))
  | .negate, .integer i => checked UnaryOp.negate.symbol (-i.toInt)
  | .negate, .decimal d => .ok (.decimal d.neg)
  | .negate, other => .error (.invalidOperand UnaryOp.negate.symbol (heap.kind other))

end DynamicSql.Operators

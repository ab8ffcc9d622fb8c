import DynamicSql.Value.Basic

/-!
# Expressions

The language of bind nodes: literals, names, navigation by property and index,
arithmetic, comparison and logic.  A statement is an expression or the
assignment of one to a name; assignments do not nest.
-/

namespace DynamicSql

/-- The operators with one operand. -/
inductive UnaryOp
  | negate
  | not
  deriving DecidableEq, Repr

/-- The operators with two operands. -/
inductive BinaryOp
  | add | subtract | multiply | divide | modulo
  | equal | notEqual | less | lessEqual | greater | greaterEqual
  | and | or
  deriving DecidableEq, Repr

/-- An expression. -/
inductive Expr
  | literal (value : Value)
  | ident (name : String)
  | property (base : Expr) (name : String)
  | index (base index : Expr)
  | unary (op : UnaryOp) (operand : Expr)
  | binary (op : BinaryOp) (left right : Expr)

/-- An expression, or the assignment of one. -/
inductive Statement
  | expr (e : Expr)
  | assign (name : String) (e : Expr)

/-- The symbol of an operator. -/
def UnaryOp.symbol : UnaryOp → String
  | negate => "-"
  | not => "!"

/-- The symbol of an operator. -/
def BinaryOp.symbol : BinaryOp → String
  | add => "+"
  | subtract => "-"
  | multiply => "*"
  | divide => "/"
  | modulo => "%"
  | equal => "=="
  | notEqual => "!="
  | less => "<"
  | lessEqual => "<="
  | greater => ">"
  | greaterEqual => ">="
  | and => "&&"
  | or => "||"

/-- How tightly an operator binds; one that binds tighter has the higher level. -/
def BinaryOp.level : BinaryOp → Nat
  | or => 1
  | and => 2
  | equal | notEqual => 3
  | less | lessEqual | greater | greaterEqual => 4
  | add | subtract => 5
  | multiply | divide | modulo => 6

end DynamicSql

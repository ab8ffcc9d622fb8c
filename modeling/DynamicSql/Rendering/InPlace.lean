import DynamicSql.Rendering.Context

/-!
# Evaluation in place

An evaluator can also work on the bindings themselves.  It looks every name up in
them as they are when it comes to it, an assignment changes them at once, wherever in
the expression it stands, and what has been changed stays so when the evaluation fails
later on.
-/

namespace DynamicSql

/-- An expression in which names can be assigned to at any depth. -/
inductive Tree
  | literal (value : Value)
  | ident (name : String)
  | property (base : Tree) (name : String)
  | index (base index : Tree)
  | unary (op : UnaryOp) (operand : Tree)
  | binary (op : BinaryOp) (left right : Tree)
  | assign (name : String) (value : Tree)

/-- An expression as a tree. -/
def Expr.tree : Expr → Tree
  | literal value => .literal value
  | ident name => .ident name
  | property base name => .property base.tree name
  | index base position => .index base.tree position.tree
  | unary op operand => .unary op operand.tree
  | binary op left right => .binary op left.tree right.tree

/-- A statement as a tree. -/
def Statement.tree : Statement → Tree
  | expr e => e.tree
  | assign name e => .assign name e.tree

/-- What works on bindings and may fail; a failure leaves them as they are by then. -/
abbrev Effect (α : Type) := ExceptT ExprError (StateM Bindings) α

namespace Effect

/-- Look a name up in the bindings of the moment. -/
def resolve (heap : Heap) (name : String) : Effect Value := do
  ofExcept ((← get).resolve heap name)

/-- Bind a name at once. -/
def assign (name : String) (value : Value) : Effect Unit :=
  modify fun bindings => bindings.put name value

end Effect

/-- Evaluate a tree in place. -/
def Tree.run (heap : Heap) : Tree → Effect Value
  | literal value => pure value
  | ident name => Effect.resolve heap name
  | property base name => do
    let base ← run heap base
    ofExcept (base.property heap name)
  | index base position => do
    let base ← run heap base
    let position ← run heap position
    ofExcept (base.at heap position)
  | unary op operand => do
    let operand ← run heap operand
    ofExcept (Operators.unary heap op operand)
  | binary .and left right => do
    if !(← run heap left).isTruthy then return .boolean false
    return .boolean (← run heap right).isTruthy
  | binary .or left right => do
    if (← run heap left).isTruthy then return .boolean true
    return .boolean (← run heap right).isTruthy
  | binary op left right => do
    let left ← run heap left
    let right ← run heap right
    ofExcept (Operators.binary heap op left right)
  | assign name value => do
    let value ← run heap value
    Effect.assign name value
    return value

/-- Evaluate a text in place. -/
def Statement.run (heap : Heap) (text : String) : Effect Value := do
  let statement ← ofExcept ((Statement.parse text).mapError .parse)
  statement.tree.run heap

end DynamicSql

import DynamicSql.Expr.Basic
import DynamicSql.Text.Quoted

/-!
# Tokens

The words of the expression language.
-/

namespace DynamicSql

/-- A token. -/
inductive Token
  | integer (i : Int64)
  | decimal (text : String)
  | string (s : String)
  | identifier (name : String)
  | boolean (b : Bool)
  | null
  | plus | minus | multiply | divide | modulo
  | equal | notEqual | less | lessEqual | greater | greaterEqual
  | and | or | not
  | assign | dot
  | leftParen | rightParen | leftBracket | rightBracket
  deriving DecidableEq

namespace Token

/-- The operator that a token stands for between two operands. -/
def binaryOp? : Token → Option BinaryOp
  | plus => some .add
  | minus => some .subtract
  | multiply => some .multiply
  | divide => some .divide
  | modulo => some .modulo
  | equal => some .equal
  | notEqual => some .notEqual
  | less => some .less
  | lessEqual => some .lessEqual
  | greater => some .greater
  | greaterEqual => some .greaterEqual
  | and => some .and
  | or => some .or
  | _ => none

/-- The operator that a token stands for before an operand. -/
def unaryOp? : Token → Option UnaryOp
  | minus => some .negate
  | not => some .not
  | _ => none

/-- The name of the kind of a token. -/
def kind : Token → String
  | integer _ => "Integer"
  | decimal _ => "Decimal"
  | string _ => "String"
  | identifier _ => "Identifier"
  | boolean _ => "Boolean"
  | null => "Null"
  | plus => "Plus"
  | minus => "Minus"
  | multiply => "Multiply"
  | divide => "Divide"
  | modulo => "Modulo"
  | equal => "Equal"
  | notEqual => "NotEqual"
  | less => "LessThan"
  | lessEqual => "LessThanOrEqual"
  | greater => "GreaterThan"
  | greaterEqual => "GreaterThanOrEqual"
  | and => "And"
  | or => "Or"
  | not => "Not"
  | assign => "Assign"
  | dot => "Dot"
  | leftParen => "LeftParen"
  | rightParen => "RightParen"
  | leftBracket => "LeftBracket"
  | rightBracket => "RightBracket"

/-- The text of what a token carries. -/
def payloadText? : Token → Option String
  | integer i => some (Value.integerText i)
  | decimal s | string s | identifier s => some (Text.quoted s)
  | boolean b => some (Value.boolText b)
  | _ => none

/-- The diagnostic text. -/
def debugText (token : Token) : String :=
  match token.payloadText? with
  | some text => token.kind ++ "(" ++ text ++ ")"
  | none => token.kind

end Token

end DynamicSql

import DynamicSql.Expr.Token
import DynamicSql.Error

/-!
# Errors of expressions
-/

namespace DynamicSql

/-- Why a text is not a statement. -/
inductive ParseFault
  | unexpectedCharacter (c : Char)
  | integerOutOfRange (text : String)
  | unterminatedString
  | unexpectedEnd
  | unexpectedToken (token : Token)
  | expected (wanted : Token) (found : Option Token)
  | expectedName
  | expectedRightParen
  | notAssignable
  | invalidDecimal (text : String) (fault : DecimalFault)
  deriving DecidableEq

/-- The words for a fault. -/
def ParseFault.message : ParseFault → String
  | unexpectedCharacter c => "Unexpected character '" ++ c.toString ++ "'"
  | integerOutOfRange text => "Integer literal '" ++ text ++ "' out of range"
  | unterminatedString => "Unterminated string literal"
  | unexpectedEnd => "Unexpected end of expression"
  | unexpectedToken token => "Unexpected token " ++ token.debugText
  | expected wanted found =>
    "Expected " ++ wanted.debugText ++ ", found " ++ Text.optional (found.map Token.debugText)
  | expectedName => "Expected property name after '.'"
  | expectedRightParen => "Expected ')'"
  | notAssignable => "Left side of '=' must be a variable name"
  | invalidDecimal text fault => "Invalid decimal '" ++ text ++ "': " ++ fault.message

/-- A fault at a byte position of the text. -/
structure ParseError where
  fault : ParseFault
  position : Nat
  deriving DecidableEq

/-- Why an expression has no value. -/
inductive ExprError
  | parse (error : ParseError)
  | typeMismatch (operation left right : String)
  | invalidOperand (operation operand : String)
  | divisionByZero
  | overflow (operation : String)
  | access (error : AccessError)

/-- The words for an error. -/
def ExprError.message : ExprError → String
  | parse error =>
    "Parse error at position " ++ String.ofList (Text.natText error.position) ++ ": " ++
      error.fault.message
  | typeMismatch operation left right =>
    "Cannot apply '" ++ operation ++ "' to " ++ left ++ " and " ++ right
  | invalidOperand operation operand => "Cannot apply '" ++ operation ++ "' to " ++ operand
  | divisionByZero => "Division by zero"
  | overflow operation => "Arithmetic overflow in '" ++ operation ++ "'"
  | access error => error.message

end DynamicSql

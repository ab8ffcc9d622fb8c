import DynamicSql.Expr.Dotted

/-!
# Writing expressions

A statement is written token by token, with every compound operand in parentheses, so that
no operator depends on how tightly it binds.  A layout says which blanks stand between the
tokens and in which quotes the strings stand.  Negative numbers and decimals without places
are no literals of the language, and neither are lists, mappings and objects.
-/

namespace DynamicSql

/-! ## Spelling -/

/-- A text with a backslash before each backslash and each quote. -/
def Lexer.escape (quote : Char) (cs : List Char) : List Char :=
  cs.flatMap fun c => if c = '\\' ∨ c = quote then ['\\', c] else [c]

/-- The characters of a token; a string stands in the given quotes. -/
def Token.spelling (quote : Char) : Token → List Char
  | integer i => Text.intText i.toInt
  | decimal text => text.toList
  | string s => quote :: (Lexer.escape quote s.toList ++ [quote])
  | identifier name => name.toList
  | boolean true => ['t', 'r', 'u', 'e']
  | boolean false => ['f', 'a', 'l', 's', 'e']
  | null => ['n', 'u', 'l', 'l']
  | plus => ['+']
  | minus => ['-']
  | multiply => ['*']
  | divide => ['/']
  | modulo => ['%']
  | equal => ['=', '=']
  | notEqual => ['!', '=']
  | less => ['<']
  | lessEqual => ['<', '=']
  | greater => ['>']
  | greaterEqual => ['>', '=']
  | and => ['&', '&']
  | or => ['|', '|']
  | not => ['!']
  | assign => ['=']
  | dot => ['.']
  | leftParen => ['(']
  | rightParen => [')']
  | leftBracket => ['[']
  | rightBracket => [']']

/-- How tokens are laid out: the blanks before each of them and behind the last one, and the
quotes of each that is a string. -/
structure Layout where
  gap : Nat → List Char
  quote : Nat → Char
  blank : ∀ n, ∀ c ∈ gap n, Text.isBlank c = true
  quoted : ∀ n, quote n = '\'' ∨ quote n = '"'

namespace Layout

/-- The characters of tokens of which the first is the `n`-th of the text. -/
def chars (layout : Layout) (n : Nat) : List Token → List Char
  | [] => layout.gap n
  | token :: rest =>
    layout.gap n ++ (token.spelling (layout.quote n) ++ layout.chars (n + 1) rest)

/-- The text of tokens. -/
def text (layout : Layout) (tokens : List Token) : String :=
  String.ofList (layout.chars 0 tokens)

/-- A space before each token, and single quotes. -/
def spaced : Layout where
  gap := fun _ => [' ']
  quote := fun _ => '\''
  blank := fun _ _ hc => List.mem_singleton.1 hc ▸ rfl
  quoted := fun _ => .inl rfl

/-- No blanks, and single quotes. -/
def tight : Layout where
  gap := fun _ => []
  quote := fun _ => '\''
  blank := fun _ _ hc => absurd hc List.not_mem_nil
  quoted := fun _ => .inl rfl

end Layout

/-! ## The tokens of a statement -/

/-- The token of an operator before its operand. -/
def UnaryOp.token : UnaryOp → Token
  | negate => .minus
  | not => .not

/-- The token of an operator between its operands. -/
def BinaryOp.token : BinaryOp → Token
  | add => .plus
  | subtract => .minus
  | multiply => .multiply
  | divide => .divide
  | modulo => .modulo
  | equal => .equal
  | notEqual => .notEqual
  | less => .less
  | lessEqual => .lessEqual
  | greater => .greater
  | greaterEqual => .greaterEqual
  | and => .and
  | or => .or

/-- The tokens of a literal; other values have none. -/
def Value.literalTokens : Value → List Token
  | null => [.null]
  | boolean b => [.boolean b]
  | integer i => [.integer i]
  | decimal d => [.decimal d.text]
  | string s => [.string s]
  | _ => []

/-- Whether a value is one of a literal: null, a truth value, a text, a number that is not
negative, and of the decimals one with places. -/
def Value.isLiteral : Value → Bool
  | null | boolean _ | string _ => true
  | integer i => 0 ≤ i.toInt
  | decimal d => !d.negative && d.scale != 0
  | _ => false

namespace Expr

/-- Whether an expression has parts. -/
def isCompound : Expr → Bool
  | literal _ | ident _ => false
  | _ => true

/-- The tokens of an operand, in parentheses if it has parts. -/
def enclose (operand : Expr) (tokens : List Token) : List Token :=
  if operand.isCompound then .leftParen :: (tokens ++ [.rightParen]) else tokens

/-- The tokens of an expression, all its parts enclosed. -/
def tokens : Expr → List Token
  | literal value => value.literalTokens
  | ident name => [.identifier name]
  | property base name => base.enclose base.tokens ++ [.dot, .identifier name]
  | index base i =>
    base.enclose base.tokens ++ .leftBracket :: (i.enclose i.tokens ++ [.rightBracket])
  | unary op operand => op.token :: operand.enclose operand.tokens
  | binary op left right =>
    left.enclose left.tokens ++ op.token :: right.enclose right.tokens

/-- Whether an expression can be written: its values are those of literals and its names are
names of the language. -/
def isWritable : Expr → Bool
  | literal value => value.isLiteral
  | ident name => isName name
  | property base name => base.isWritable && isName name
  | index base i => base.isWritable && i.isWritable
  | unary _ operand => operand.isWritable
  | binary _ left right => left.isWritable && right.isWritable

end Expr

namespace Statement

/-- The tokens of a statement. -/
def tokens : Statement → List Token
  | expr e => e.tokens
  | assign name e => .identifier name :: .assign :: e.enclose e.tokens

/-- Whether a statement can be written. -/
def isWritable : Statement → Bool
  | expr e => e.isWritable
  | assign name e => isName name && e.isWritable

end Statement

end DynamicSql

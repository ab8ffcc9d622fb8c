import DynamicSql.Expr.Lexer
import DynamicSql.Path

/-!
# Dotted texts

A text such as `order.lines[0].sku` is an expression, and it is a property path too.
It is a sequence of hops: each has a name, and it may have a position in brackets.
-/

namespace DynamicSql

/-- The words of the expression language that are no names. -/
def keywords : List String := ["true", "false", "null", "and", "or", "not"]

/-- Whether a text is a name of the expression language. -/
def isName (text : String) : Bool :=
  match text.toList with
  | [] => false
  | c :: rest =>
    Text.isIdentifierStart c && rest.all Text.isIdentifierContinue && !keywords.contains text

/-- A name, and a position of 64 bits or none. -/
structure Hop where
  name : String
  position : Option Nat
  named : isName name = true
  inRange : ∀ n : Nat, position = some n → (n : Int) ≤ int64Greatest

namespace Hop

variable (hop : Hop)

/-- The text of the position, in brackets. -/
def bracketChars : List Char :=
  match hop.position with
  | none => []
  | some n => '[' :: (Text.natText n ++ [']'])

/-- The text of a hop. -/
def chars : List Char := hop.name.toList ++ hop.bracketChars

/-- The step of a path that a hop is. -/
def step : Path.Step :=
  ⟨String.ofList hop.chars, hop.name, hop.position.map fun n => String.ofList (Text.natText n)⟩

/-- The tokens of the position. -/
def bracketTokens : List Token :=
  match hop.position with
  | none => []
  | some n => [.leftBracket, .integer (Int64.ofInt n), .rightBracket]

/-- The tokens of a hop. -/
def tokens : List Token := .identifier hop.name :: hop.bracketTokens

/-- An expression indexed by the position. -/
def bracket (base : Expr) : Expr :=
  match hop.position with
  | none => base
  | some n => .index base (.literal (.integer (Int64.ofInt n)))

end Hop

/-- A first hop and further ones, separated by dots. -/
structure Dotted where
  first : Hop
  rest : List Hop

namespace Dotted

variable (dotted : Dotted)

/-- All hops. -/
def hops : List Hop := dotted.first :: dotted.rest

/-- The text. -/
def text : String :=
  String.ofList (dotted.first.chars ++ dotted.rest.flatMap fun hop => '.' :: hop.chars)

/-- The tokens. -/
def tokens : List Token :=
  dotted.first.tokens ++ dotted.rest.flatMap fun hop => .dot :: hop.tokens

/-- The expression: properties of properties, with indexes between them. -/
def expr : Expr :=
  dotted.rest.foldl (fun base hop => hop.bracket (.property base hop.name))
    (dotted.first.bracket (.ident dotted.first.name))

end Dotted

end DynamicSql

import DynamicSql.Expr.Lexer

/-!
# Parsing

Operators of one level associate to the left, and an operator of a higher level
binds tighter.  Prefix operators bind tighter than all infix ones, and property
steps and indexes tighter than prefix operators.  A statement may assign to a
name.  Tokens are taken one at a time, so the first fault in the order of the
text is the one reported.
-/

namespace DynamicSql

namespace Parser

/-- The current token, if the text has not ended. -/
def current? : TokenStream → Option Token
  | .next lexeme _ => some lexeme.token
  | _ => none

/-- The position of the current token, or of the end. -/
def position : TokenStream → Nat
  | .next lexeme _ => lexeme.start
  | .done position => position
  | .fault error => error.position

/-- Fail with a fault at the current token. -/
def fail {α : Type} (stream : TokenStream) (cause : ParseFault) : Except ParseError α :=
  .error ⟨cause, position stream⟩

/-- A stream whose current token could be read. -/
def ready : TokenStream → Except ParseError TokenStream
  | .fault error => .error error
  | stream => .ok stream

/-- Go on to the next token. -/
def advance : TokenStream → Except ParseError TokenStream
  | .next _ rest => ready rest
  | stream => ready stream

/-- Go on behind a token that must be the current one. -/
def expect (wanted : Token) (stream : TokenStream) : Except ParseError TokenStream :=
  if current? stream = some wanted then advance stream
  else fail stream (.expected wanted (current? stream))

/-- The value of a literal token. -/
def literal? (stream : TokenStream) : Token → Except ParseError (Option Value)
  | .integer i => .ok (some (.integer i))
  | .decimal text =>
    match Decimal.parse text with
    | .ok d => .ok (some (.decimal d))
    | .error cause => fail stream (.invalidDecimal text cause)
  | .string s => .ok (some (.string s))
  | .boolean b => .ok (some (.boolean b))
  | .null => .ok (some .null)
  | _ => .ok none

mutual

/-- Read an expression whose infix operators have at least the given level. -/
def binary : (fuel : Nat) → (level : Nat) → TokenStream → Except ParseError (Expr × TokenStream)
  | 0, _, stream => fail stream .unexpectedEnd
  | fuel + 1, level, stream => do
    let (left, stream) ← unary fuel stream
    operators fuel level left stream

/-- Read the infix operators of at least the given level that follow an operand. -/
def operators : (fuel : Nat) → (level : Nat) → Expr → TokenStream →
    Except ParseError (Expr × TokenStream)
  | 0, _, _, stream => fail stream .unexpectedEnd
  | fuel + 1, level, left, stream =>
    match (current? stream).bind Token.binaryOp? with
    | none => .ok (left, stream)
    | some op =>
      if op.level < level then .ok (left, stream)
      else do
        let (right, stream) ← binary fuel (op.level + 1) (← advance stream)
        operators fuel level (.binary op left right) stream

/-- Read an operand with its prefix operators. -/
def unary : (fuel : Nat) → TokenStream → Except ParseError (Expr × TokenStream)
  | 0, stream => fail stream .unexpectedEnd
  | fuel + 1, stream =>
    match (current? stream).bind Token.unaryOp? with
    | some op => do
      let (operand, stream) ← unary fuel (← advance stream)
      .ok (.unary op operand, stream)
    | none => do
      let (base, stream) ← primary fuel stream
      postfixes fuel base stream

/-- Read the property steps and indexes that follow an operand. -/
def postfixes : (fuel : Nat) → Expr → TokenStream → Except ParseError (Expr × TokenStream)
  | 0, _, stream => fail stream .unexpectedEnd
  | fuel + 1, base, stream =>
    if current? stream = some .dot then do
      let stream ← advance stream
      match current? stream with
      | some (.identifier name) => postfixes fuel (.property base name) (← advance stream)
      | _ => fail stream .expectedName
    else if current? stream = some .leftBracket then do
      let (index, stream) ← binary fuel 1 (← advance stream)
      postfixes fuel (.index base index) (← expect .rightBracket stream)
    else .ok (base, stream)

/-- Read a literal, a name or an expression in parentheses. -/
def primary : (fuel : Nat) → TokenStream → Except ParseError (Expr × TokenStream)
  | 0, stream => fail stream .unexpectedEnd
  | fuel + 1, stream =>
    match current? stream with
    | none => fail stream .unexpectedEnd
    | some (.identifier name) => do .ok (.ident name, ← advance stream)
    | some .leftParen => do
      let (inner, stream) ← binary fuel 1 (← advance stream)
      if current? stream = some .rightParen then .ok (inner, ← advance stream)
      else fail stream .expectedRightParen
    | some token => do
      match ← literal? stream token with
      | some value => .ok (.literal value, ← advance stream)
      | none => fail stream (.unexpectedToken token)

end

/-- A bound on the nesting of a stream. -/
def bound (stream : TokenStream) : Nat := 6 * (stream.length + 1)

/-- Read a whole expression. -/
def expression (stream : TokenStream) : Except ParseError (Expr × TokenStream) :=
  binary (bound stream) 1 stream

/-- Read an expression or an assignment. -/
def statement (stream : TokenStream) : Except ParseError (Statement × TokenStream) := do
  let (left, stream) ← expression stream
  if current? stream = some .assign then
    match left with
    | .ident name => do
      let (right, stream) ← expression (← advance stream)
      .ok (.assign name right, stream)
    | _ => fail stream .notAssignable
  else .ok (.expr left, stream)

/-- Read a statement that is the whole text. -/
def program (stream : TokenStream) : Except ParseError Statement := do
  let (result, stream) ← statement (← ready stream)
  match current? stream with
  | none => .ok result
  | some token => fail stream (.unexpectedToken token)

end Parser

/-- Parse a statement. -/
def Statement.parse (text : String) : Except ParseError Statement :=
  Parser.program (.ofText text)

end DynamicSql

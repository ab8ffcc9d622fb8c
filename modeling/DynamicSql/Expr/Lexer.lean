import DynamicSql.Expr.Error
import DynamicSql.Text.Blank
import DynamicSql.Text.Identifier

/-!
# Cutting text into tokens

Blank characters separate tokens.  Digits form an integer, or with a point and
more digits a decimal; quotes of either kind delimit strings with backslash
escapes; identifiers are words of Unicode letters, some of which are keywords.
Positions count the bytes of the text in UTF-8.
-/

namespace DynamicSql

namespace Lexer

open Text (isBlank isDigit isIdentifierStart isIdentifierContinue)

/-- The character that a backslash and `c` stand for. -/
def unescape (c : Char) : Char :=
  if c = 'n' then '\n' else if c = 't' then '\t' else if c = 'r' then '\r' else c

/-- Read a string up to the closing quote: its characters and what follows. -/
def readLiteral (quote : Char) : List Char → Option (List Char × List Char)
  | [] => none
  | '\\' :: [] => none
  | '\\' :: c :: rest => (readLiteral quote rest).map fun (s, rest) => (unescape c :: s, rest)
  | c :: rest =>
    if c = quote then some ([], rest)
    else (readLiteral quote rest).map fun (s, rest) => (c :: s, rest)

/-- The token of a word. -/
def word (cs : List Char) : Token :=
  let text := String.ofList cs
  if text = "true" then .boolean true
  else if text = "false" then .boolean false
  else if text = "null" then .null
  else if text = "and" then .and
  else if text = "or" then .or
  else if text = "not" then .not
  else .identifier text

/-- The token of a number that starts with a digit. -/
def readNumber (cs : List Char) : Except ParseFault (Token × List Char) :=
  let whole := cs.takeWhile isDigit
  let rest := cs.dropWhile isDigit
  let integer : Except ParseFault (Token × List Char) :=
    let n := Text.digitsValue whole
    match int64? n with
    | some i => .ok (.integer i, rest)
    | none => .error (.integerOutOfRange (String.ofList whole))
  match rest with
  | '.' :: c :: after =>
    if isDigit c then
      let places := (c :: after).takeWhile isDigit
      .ok (.decimal (String.ofList (whole ++ '.' :: places)), (c :: after).dropWhile isDigit)
    else integer
  | _ => integer

/-- The token of a sign that changes its meaning before another character. -/
def follow (next : Char) (matched otherwise : Token) : List Char → Token × List Char
  | c :: rest => if c = next then (matched, rest) else (otherwise, c :: rest)
  | [] => (otherwise, [])

/-- Read the token that starts with a character, and what follows it. -/
def readToken (c : Char) (rest : List Char) : Except ParseFault (Token × List Char) :=
  if c = '+' then .ok (.plus, rest)
  else if c = '-' then .ok (.minus, rest)
  else if c = '*' then .ok (.multiply, rest)
  else if c = '/' then .ok (.divide, rest)
  else if c = '%' then .ok (.modulo, rest)
  else if c = '.' then .ok (.dot, rest)
  else if c = '(' then .ok (.leftParen, rest)
  else if c = ')' then .ok (.rightParen, rest)
  else if c = '[' then .ok (.leftBracket, rest)
  else if c = ']' then .ok (.rightBracket, rest)
  else if c = '=' then .ok (follow '=' .equal .assign rest)
  else if c = '!' then .ok (follow '=' .notEqual .not rest)
  else if c = '<' then .ok (follow '=' .lessEqual .less rest)
  else if c = '>' then .ok (follow '=' .greaterEqual .greater rest)
  else if c = '&' && rest.head? == some '&' then .ok (.and, rest.tail)
  else if c = '|' && rest.head? == some '|' then .ok (.or, rest.tail)
  else if c = '\'' || c = '"' then
    match readLiteral c rest with
    | some (s, rest) => .ok (.string (String.ofList s), rest)
    | none => .error .unterminatedString
  else if isDigit c then readNumber (c :: rest)
  else if isIdentifierStart c then
    .ok (word (c :: rest.takeWhile isIdentifierContinue), rest.dropWhile isIdentifierContinue)
  else .error (.unexpectedCharacter c)

/-- The number of bytes of a text in UTF-8. -/
def bytes : List Char → Nat
  | [] => 0
  | c :: rest => c.utf8Size + bytes rest

end Lexer

/-- A token with the byte positions of its start and end. -/
structure Lexeme where
  token : Token
  start : Nat
  stop : Nat

/-- The tokens of a text in order, up to its end or to the first fault. -/
inductive TokenStream
  | done (position : Nat)
  | fault (error : ParseError)
  | next (lexeme : Lexeme) (rest : TokenStream)

namespace TokenStream

/-- The number of tokens. -/
def length : TokenStream → Nat
  | next _ rest => rest.length + 1
  | _ => 0

/-- The lexemes. -/
def lexemes : TokenStream → List Lexeme
  | next lexeme rest => lexeme :: rest.lexemes
  | _ => []

/-- The fault at the end, if the text is faulty. -/
def error? : TokenStream → Option ParseError
  | next _ rest => rest.error?
  | fault error => some error
  | done _ => none

/-- The tokens of the rest of a text of `total` bytes. -/
def ofChars (total : Nat) : (fuel : Nat) → List Char → TokenStream
  | 0, _ => done total
  | fuel + 1, cs =>
    match cs.dropWhile Text.isBlank with
    | [] => done total
    | c :: rest =>
      let start := total - Lexer.bytes (c :: rest)
      match Lexer.readToken c rest with
      | .error cause => .fault ⟨cause, start⟩
      | .ok (token, rest) => next ⟨token, start, total - Lexer.bytes rest⟩ (ofChars total fuel rest)

/-- The tokens of a text. -/
def ofText (text : String) : TokenStream :=
  let cs := text.toList
  ofChars (Lexer.bytes cs) (cs.length + 1) cs

/-- The tokens of a text, if it has no fault. -/
def all (stream : TokenStream) : Except ParseError (List Token) :=
  match stream.error? with
  | some error => .error error
  | none => .ok (stream.lexemes.map Lexeme.token)

end TokenStream

end DynamicSql

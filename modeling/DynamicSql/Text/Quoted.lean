import DynamicSql.Text.Printable

/-!
# Quoted text

Diagnostic output shows text between double quotes.  Quotes and backslashes are
escaped with a backslash, the common controls have letters, and every other
character that is not printable, or that attaches to the character before it,
is written as its code point in braces.
-/

namespace DynamicSql.Text

/-- A character as it stands between double quotes. -/
def escapeChar (c : Char) : List Char :=
  if c = '\x00' then ['\\', '0']
  else if c = '\t' then ['\\', 't']
  else if c = '\r' then ['\\', 'r']
  else if c = '\n' then ['\\', 'n']
  else if c = '"' then ['\\', '"']
  else if c = '\\' then ['\\', '\\']
  else if isGraphemeExtend c || !isPrintable c then
    ['\\', 'u', '\x7b'] ++ hexText 1 c.toNat ++ ['\x7d']
  else [c]

/-- A text between double quotes. -/
def quoted (s : String) : String :=
  String.ofList ('"' :: s.toList.flatMap escapeChar ++ ['"'])

/-- A list in brackets. -/
def bracketed (items : List String) : String := "[" ++ ", ".intercalate items ++ "]"

/-- An optional text, with the quotes of `quoted`. -/
def optional : Option String → String
  | none => "None"
  | some text => "Some(" ++ text ++ ")"

/-- A named record with its fields. -/
def record (name : String) (fields : List (String × String)) : String :=
  name ++ " \x7b " ++
    ", ".intercalate (fields.map fun (field, text) => field ++ ": " ++ text) ++ " \x7d"

/-- The words for the two truth values. -/
def boolText (b : Bool) : String := if b then "true" else "false"

end DynamicSql.Text

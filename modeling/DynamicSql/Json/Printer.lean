import DynamicSql.Json.Basic

/-!
# Printing JSON

Compact text has no white space.  Indented text puts each item and member on a
line of its own, two spaces deeper than what holds it; empty arrays and objects
stay on one line.  Strings escape quotes, backslashes and control characters.
-/

namespace DynamicSql.Json

open Text (hexText)

/-- A character as it stands in a string. -/
def escapeChar (c : Char) : List Char :=
  if c = '"' then ['\\', '"']
  else if c = '\\' then ['\\', '\\']
  else if c = '\x08' then ['\\', 'b']
  else if c = '\x0c' then ['\\', 'f']
  else if c = '\n' then ['\\', 'n']
  else if c = '\r' then ['\\', 'r']
  else if c = '\t' then ['\\', 't']
  else if c.toNat < 32 then '\\' :: 'u' :: hexText 4 c.toNat
  else [c]

/-- A string with its quotes. -/
def stringText (s : String) : List Char := '"' :: s.toList.flatMap escapeChar ++ ['"']

/-- The words for the two truth values. -/
def boolText : Bool → List Char
  | true => ['t', 'r', 'u', 'e']
  | false => ['f', 'a', 'l', 's', 'e']

mutual

/-- Compact text. -/
def compactChars : Json → List Char
  | .null => ['n', 'u', 'l', 'l']
  | .bool b => boolText b
  | .number n => n.text
  | .string s => stringText s
  | .array items => '[' :: compactItems items ++ [']']
  | .object members => '\x7b' :: compactMembers members ++ ['\x7d']

/-- Items separated by commas. -/
def compactItems : List Json → List Char
  | [] => []
  | [item] => compactChars item
  | item :: next :: rest => compactChars item ++ ',' :: compactItems (next :: rest)

/-- Members separated by commas. -/
def compactMembers : List (String × Json) → List Char
  | [] => []
  | [(name, value)] => stringText name ++ ':' :: compactChars value
  | (name, value) :: next :: rest =>
    stringText name ++ ':' :: compactChars value ++ ',' :: compactMembers (next :: rest)

end

/-- Compact text. -/
def compact (json : Json) : String := String.ofList json.compactChars

/-- A new line with its indentation. -/
def newLine (indent : Nat) : List Char := '\n' :: List.replicate (2 * indent) ' '

mutual

/-- Indented text, inside `indent` levels. -/
def indentedChars (indent : Nat) : Json → List Char
  | .array [] => ['[', ']']
  | .array items => '[' :: indentedItems (indent + 1) items ++ newLine indent ++ [']']
  | .object [] => ['\x7b', '\x7d']
  | .object members =>
    '\x7b' :: indentedMembers (indent + 1) members ++ newLine indent ++ ['\x7d']
  | .null => ['n', 'u', 'l', 'l']
  | .bool b => boolText b
  | .number n => n.text
  | .string s => stringText s

/-- Items, each on its line. -/
def indentedItems (indent : Nat) : List Json → List Char
  | [] => []
  | [item] => newLine indent ++ indentedChars indent item
  | item :: next :: rest =>
    newLine indent ++ indentedChars indent item ++ ',' :: indentedItems indent (next :: rest)

/-- Members, each on its line. -/
def indentedMembers (indent : Nat) : List (String × Json) → List Char
  | [] => []
  | [(name, value)] =>
    newLine indent ++ stringText name ++ [':', ' '] ++ indentedChars indent value
  | (name, value) :: next :: rest =>
    newLine indent ++ stringText name ++ [':', ' '] ++ indentedChars indent value ++
      ',' :: indentedMembers indent (next :: rest)

end

/-- Indented text. -/
def indented (json : Json) : String := String.ofList (indentedChars 0 json)

end DynamicSql.Json

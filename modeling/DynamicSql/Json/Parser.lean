import DynamicSql.Json.Number

/-!
# Reading JSON

A document is one value with white space around it.  Arrays and objects nest at
most 127 levels deep, strings hold no raw control characters, and escaped
surrogates come in pairs.  A `skimmed` value only has to be well formed: its
nesting, the size of its numbers and its surrogates are not looked at.
-/

namespace DynamicSql.Json

open Text (isDigit)

/-- How closely a value is read. -/
inductive Reading
  | full
  | skimmed
  deriving DecidableEq

/-- The greatest number of nested arrays and objects. -/
def maxDepth : Nat := 127

/-- White space between tokens. -/
def isSpace (c : Char) : Bool := c = ' ' || c = '\n' || c = '\t' || c = '\r'

/-- Drop white space. -/
def skipSpace (cs : List Char) : List Char := cs.dropWhile isSpace

/-! ## Strings -/

/-- The value of a hexadecimal digit. -/
def hexValue? (c : Char) : Option Nat :=
  if isDigit c then some (c.toNat - 48)
  else if 'a' ≤ c && c ≤ 'f' then some (c.toNat - 87)
  else if 'A' ≤ c && c ≤ 'F' then some (c.toNat - 55)
  else none

/-- Read four hexadecimal digits. -/
def readHex : List Char → Option (Nat × List Char)
  | a :: b :: c :: d :: rest => do
    let a ← hexValue? a
    let b ← hexValue? b
    let c ← hexValue? c
    let d ← hexValue? d
    some (((a * 16 + b) * 16 + c) * 16 + d, rest)
  | _ => none

/-- Read an escaped code point after `\u`. -/
def readCodePoint (reading : Reading) (cs : List Char) : Option (Char × List Char) := do
  let (n, rest) ← readHex cs
  if n < 0xD800 || 0xE000 ≤ n then some (Char.ofNat n, rest)
  else if reading = .skimmed then some ('?', rest)
  else if 0xDC00 ≤ n then none
  else match rest with
    | '\\' :: 'u' :: low =>
      let (m, rest) ← readHex low
      if 0xDC00 ≤ m && m < 0xE000 then
        some (Char.ofNat (0x10000 + (n - 0xD800) * 0x400 + (m - 0xDC00)), rest)
      else none
    | _ => none

/-- Read one character of a string, escaped or not; `none` at its end and for a
malformed escape. -/
def readChar (reading : Reading) : List Char → Option (Char × List Char)
  | '\\' :: c :: rest =>
    if c = '"' || c = '\\' || c = '/' then some (c, rest)
    else if c = 'b' then some ('\x08', rest)
    else if c = 'f' then some ('\x0c', rest)
    else if c = 'n' then some ('\n', rest)
    else if c = 'r' then some ('\r', rest)
    else if c = 't' then some ('\t', rest)
    else if c = 'u' then readCodePoint reading rest
    else none
  | c :: rest => if c = '\\' || c = '"' || c.toNat < 32 then none else some (c, rest)
  | [] => none

/-- Read the characters of a string up to its closing quote. -/
def readString (reading : Reading) : (fuel : Nat) → List Char → Option (List Char × List Char)
  | 0, _ => none
  | _ + 1, '"' :: rest => some ([], rest)
  | fuel + 1, cs => do
    let (c, rest) ← readChar reading cs
    let (tail, rest) ← readString reading fuel rest
    some (c :: tail, rest)

/-! ## Values -/

/-- Read a number, or only skip it. -/
def readAnyNumber (reading : Reading) (cs : List Char) : Option (Json × List Char) :=
  match reading with
  | .full => (readNumber cs).map fun (n, rest) => (.number n, rest)
  | .skimmed => (skipNumber cs).map fun rest => (.null, rest)

mutual

/-- Read a value that nests at most `depth` levels. -/
def readValue (reading : Reading) : (fuel depth : Nat) → List Char → Option (Json × List Char)
  | 0, _, _ => none
  | fuel + 1, depth, cs =>
    match skipSpace cs with
    | 'n' :: 'u' :: 'l' :: 'l' :: rest => some (.null, rest)
    | 't' :: 'r' :: 'u' :: 'e' :: rest => some (.bool true, rest)
    | 'f' :: 'a' :: 'l' :: 's' :: 'e' :: rest => some (.bool false, rest)
    | '"' :: rest => do
      let (s, rest) ← readString reading (rest.length + 1) rest
      some (.string (String.ofList s), rest)
    | '[' :: rest =>
      match depth with
      | 0 => none
      | depth + 1 =>
        match skipSpace rest with
        | ']' :: rest => some (.array [], rest)
        | rest => do
          let (items, rest) ← readItems reading fuel depth rest
          some (.array items, rest)
    | '\x7b' :: rest =>
      match depth with
      | 0 => none
      | depth + 1 =>
        match skipSpace rest with
        | '\x7d' :: rest => some (.object [], rest)
        | rest => do
          let (members, rest) ← readMembers reading fuel depth rest
          some (.object members, rest)
    | cs => readAnyNumber reading cs

/-- Read the items of an array, up to the closing bracket. -/
def readItems (reading : Reading) :
    (fuel depth : Nat) → List Char → Option (List Json × List Char)
  | 0, _, _ => none
  | fuel + 1, depth, cs => do
    let (item, rest) ← readValue reading fuel depth cs
    match skipSpace rest with
    | ']' :: rest => some ([item], rest)
    | ',' :: rest =>
      let (items, rest) ← readItems reading fuel depth rest
      some (item :: items, rest)
    | _ => none

/-- Read the members of an object, up to the closing brace. -/
def readMembers (reading : Reading) :
    (fuel depth : Nat) → List Char → Option (List (String × Json) × List Char)
  | 0, _, _ => none
  | fuel + 1, depth, cs =>
    match skipSpace cs with
    | '"' :: rest => do
      let (name, rest) ← readString reading (rest.length + 1) rest
      match skipSpace rest with
      | ':' :: rest =>
        let (value, rest) ← readValue reading fuel depth rest
        match skipSpace rest with
        | '\x7d' :: rest => some ([(String.ofList name, value)], rest)
        | ',' :: rest =>
          let (members, rest) ← readMembers reading fuel depth rest
          some ((String.ofList name, value) :: members, rest)
        | _ => none
      | _ => none
    | _ => none

end

/-- Read a document from characters. -/
def parseChars (cs : List Char) : Option Json := do
  let (json, rest) ← readValue .full (2 * cs.length + 2) maxDepth cs
  if (skipSpace rest).isEmpty then some json else none

/-- Read a document. -/
def parse (text : String) : Option Json := parseChars text.toList

/-! ## Records

A record is an object of which only certain members matter.  Those are read in
full; the others are skimmed. -/

/-- Read the members of a record, up to the closing brace. -/
def readRecord (known : List String) :
    (fuel : Nat) → List Char → Option (List (String × Json) × List Char)
  | 0, _ => none
  | fuel + 1, cs =>
    match skipSpace cs with
    | '"' :: rest => do
      let (name, rest) ← readString .full (rest.length + 1) rest
      let name := String.ofList name
      match skipSpace rest with
      | ':' :: rest =>
        let reading : Reading := if known.contains name then .full else .skimmed
        let depth := if known.contains name then maxDepth - 1 else rest.length
        let (value, rest) ← readValue reading (2 * rest.length + 2) depth rest
        match skipSpace rest with
        | '\x7d' :: rest => some ([(name, value)], rest)
        | ',' :: rest =>
          let (members, rest) ← readRecord known fuel rest
          some ((name, value) :: members, rest)
        | _ => none
      | _ => none
    | _ => none

/-- Read a document that is an object with the `known` members, or else any
other value. -/
def parseRecord (known : List String) (text : String) : Option Json :=
  match skipSpace text.toList with
  | '\x7b' :: rest => do
    let (members, rest) ← match skipSpace rest with
      | '\x7d' :: rest => some ([], rest)
      | rest => readRecord known (rest.length + 1) rest
    if (skipSpace rest).isEmpty then some (.object members) else none
  | cs => parseChars cs

end DynamicSql.Json

import DynamicSql.Value.Basic
import DynamicSql.Json.Basic
import DynamicSql.Binary64.ToDecimal

/-!
# Values from JSON

Objects become mappings sorted by name.  A number that fits 64 bits with a sign
becomes an integer.  Every other number becomes a decimal: from its exact text,
else from its text with an exponent, else from its binary form; what is too large
for all three becomes null.
-/

namespace DynamicSql.Value

/-- The decimal for a number that is no 64-bit integer. -/
def decimalOfNumber (n : JsonNumber) : Option Decimal :=
  let text := n.text
  match Decimal.read true text with
  | .ok d => some d
  | .error _ =>
    match Decimal.readScientific text with
    | some d => some d
    | none =>
      match n with
      | .float x => x.toDecimal
      | .integer _ => none

/-- The value of a number. -/
def ofNumber (n : JsonNumber) : Value :=
  match n with
  | .integer i =>
    match int64? i with
    | some i => .integer i
    | none => ((decimalOfNumber n).map decimal).getD .null
  | .float _ => ((decimalOfNumber n).map decimal).getD .null

mutual

/-- The value of a document with sorted members. -/
def ofCanonical : Json → Value
  | .null => .null
  | .bool b => .boolean b
  | .number n => ofNumber n
  | .string s => .string s
  | .array items => .list (ofItems items)
  | .object members => .map (ofMembers members)

/-- The values of the items. -/
def ofItems : List Json → List Value
  | [] => []
  | item :: rest => ofCanonical item :: ofItems rest

/-- The entries of the members. -/
def ofMembers : List (String × Json) → List (String × Value)
  | [] => []
  | (name, member) :: rest => (name, ofCanonical member) :: ofMembers rest

end

/-- The value of a document. -/
def ofJson (json : Json) : Value := ofCanonical json.canonical

end DynamicSql.Value

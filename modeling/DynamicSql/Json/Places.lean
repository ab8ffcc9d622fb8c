import DynamicSql.Binary64.Range
import DynamicSql.Json.Basic
import DynamicSql.Powers
import DynamicSql.Value.Basic

/-!
# Places in documents and values

A place is reached from the top of a document by steps to items of arrays and to members of
objects, and in the same way in a value, whose lists and mappings have these parts.  At a
place with a number stands the number that the reader made of the digits there.
-/

namespace DynamicSql

/-- One step: to an item by its index, or to a member by its name. -/
inductive Place.Step
  | item (index : Nat)
  | member (name : String)
  deriving DecidableEq, Repr

/-- The steps that lead to a place, from the top. -/
abbrev Place := List Place.Step

/-- What a document has at a place. -/
def Json.at? : Json → Place → Option Json
  | json, [] => some json
  | .array items, .item index :: rest => items[index]?.bind fun item => item.at? rest
  | .object members, .member name :: rest =>
    (Entries.get? members name).bind fun member => member.at? rest
  | _, _ => none

/-- What a value has at a place. -/
def Value.at? : Value → Place → Option Value
  | value, [] => some value
  | .list items, .item index :: rest => items[index]?.bind fun item => item.at? rest
  | .map entries, .member name :: rest =>
    (Entries.get? entries name).bind fun entry => entry.at? rest
  | _, _ => none

namespace JsonNumber

/-- Whether a number is one that documents have: an integer of their range or a
floating-point number. -/
def WellFormed : JsonNumber → Prop
  | .integer i => int64Least ≤ i ∧ i < twoPow 64
  | .float x => x.WellFormed

instance : (n : JsonNumber) → Decidable n.WellFormed
  | .integer i => inferInstanceAs (Decidable (int64Least ≤ i ∧ i < twoPow 64))
  | .float x => inferInstanceAs (Decidable x.WellFormed)

/-- The number itself. -/
def toRat : JsonNumber → Rat
  | .integer i => i
  | .float x => x.toRat

end JsonNumber

end DynamicSql

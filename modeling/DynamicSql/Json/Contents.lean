import DynamicSql.Json.Basic
import DynamicSql.Powers

/-!
# What a document holds

Tests of a document that look at everything inside it: whether its members are in order,
and which numbers it holds.
-/

namespace DynamicSql

/-- Whether a number is an integer that fits 64 bits with a sign. -/
def JsonNumber.isInt64 : JsonNumber → Bool
  | .integer i => (int64? i).isSome
  | .float _ => false

/-- Whether a number is an integer of the range that integers have in documents. -/
def JsonNumber.isInteger : JsonNumber → Bool
  | .integer i => decide (int64Least ≤ i) && decide (i < twoPow 64)
  | .float _ => false

namespace Json

mutual

/-- Whether a document and all documents inside it pass a test. -/
def everywhere (test : Json → Bool) : Json → Bool
  | .array items => test (.array items) && everyItem test items
  | .object members => test (.object members) && everyMember test members
  | json => test json

/-- `everywhere` for all items. -/
def everyItem (test : Json → Bool) : List Json → Bool
  | [] => true
  | item :: rest => everywhere test item && everyItem test rest

/-- `everywhere` for the values of all members. -/
def everyMember (test : Json → Bool) : List (String × Json) → Bool
  | [] => true
  | (_, value) :: rest => everywhere test value && everyMember test rest

end

/-- Whether every object has each name once and in order, as a reader of the document sees
it. -/
def isSorted : Json → Bool := everywhere fun
  | .object members => decide ((Entries.keys members).Pairwise (· < ·))
  | _ => true

/-- Whether every number passes a test. -/
def everyNumber (test : JsonNumber → Bool) : Json → Bool := everywhere fun
  | .number n => test n
  | _ => true

end Json

end DynamicSql

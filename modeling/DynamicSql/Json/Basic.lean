import DynamicSql.Binary64.Text
import DynamicSql.Entries

/-!
# JSON documents

A document keeps the members of an object as they are written, repeated names
included.  `canonical` is what a reader of the document sees: members sorted by
name, the last of several with one name.
-/

namespace DynamicSql

/-- A JSON number: an integer from `-2 ^ 63` up to `2 ^ 64 - 1`, or a
floating-point number. -/
inductive JsonNumber
  | integer (i : Int)
  | float (x : Binary64)
  deriving DecidableEq, Repr

/-- A JSON document. -/
inductive Json
  | null
  | bool (b : Bool)
  | number (n : JsonNumber)
  | string (s : String)
  | array (items : List Json)
  | object (members : List (String × Json))
  deriving Inhabited, Repr

/-- The text of a number. -/
def JsonNumber.text : JsonNumber → List Char
  | .integer i => Text.intText i
  | .float x => x.text

namespace Json

mutual

/-- Sort the members of every object and drop repeated names. -/
def canonical : Json → Json
  | .array items => .array (canonicalItems items)
  | .object members => .object (Entries.sorted (canonicalMembers members))
  | json => json

/-- `canonical` on every item. -/
def canonicalItems : List Json → List Json
  | [] => []
  | item :: rest => canonical item :: canonicalItems rest

/-- `canonical` on every member. -/
def canonicalMembers : List (String × Json) → List (String × Json)
  | [] => []
  | (name, value) :: rest => (name, canonical value) :: canonicalMembers rest

end

mutual

/-- The number of nested arrays and objects. -/
def depth : Json → Nat
  | .array items => depthItems items + 1
  | .object members => depthMembers members + 1
  | _ => 0

/-- The greatest depth among the items. -/
def depthItems : List Json → Nat
  | [] => 0
  | item :: rest => max (depth item) (depthItems rest)

/-- The greatest depth among the members. -/
def depthMembers : List (String × Json) → Nat
  | [] => 0
  | (_, value) :: rest => max (depth value) (depthMembers rest)

end

end Json

end DynamicSql

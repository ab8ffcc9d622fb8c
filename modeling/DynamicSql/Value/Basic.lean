import DynamicSql.Entries
import DynamicSql.Decimal.Text

/-!
# Dynamic values

The values that flow through bindings, properties and expressions: null,
booleans, 64-bit integers, decimals, text, lists, mappings in insertion order,
and references to host objects.  Lists and mappings are held by value; an object
reference is a number, and two references are the same object exactly when the
numbers agree.
-/

namespace DynamicSql

/-- A reference to a host object. -/
structure ObjectId where
  index : Nat
  deriving DecidableEq, Repr

/-- A dynamic value. -/
inductive Value
  | null
  | boolean (b : Bool)
  | integer (i : Int64)
  | decimal (d : Decimal)
  | string (s : String)
  | list (items : List Value)
  | map (entries : List (String × Value))
  | object (id : ObjectId)
  deriving Inhabited

namespace Value

/-- Whether the value is null. -/
def isNull : Value → Bool
  | null => true
  | _ => false

theorem isNull_iff {value : Value} : value.isNull = true ↔ value = .null := by
  cases value <;> simp [isNull]

/-- Whether the value is a mapping. -/
def isMap : Value → Bool
  | map _ => true
  | _ => false

/-- Whether a value that has parts is held by value: a mapping or a list. -/
def isContainer : Value → Bool
  | map _ | list _ => true
  | _ => false

/-- The kind of a value, given the name of an object's type. -/
def kindWith (typeName : ObjectId → String) : Value → String
  | null => "null"
  | boolean _ => "boolean"
  | integer _ => "integer"
  | decimal _ => "decimal"
  | string _ => "string"
  | list _ => "list"
  | map _ => "map"
  | object id => typeName id

/-- The truth of a value: null, false, zero and everything empty are false. -/
def isTruthy : Value → Bool
  | null => false
  | boolean b => b
  | integer i => i != 0
  | decimal d => !d.isZero
  | string s => s != ""
  | list items => !items.isEmpty
  | map entries => !entries.isEmpty
  | object _ => true

/-- The text of a truth value. -/
def boolText (b : Bool) : String := if b then "true" else "false"

/-- The numeral of an integer. -/
def integerText (i : Int64) : String := String.ofList (Text.intText i.toInt)

mutual

/-- The plain text of a value, given the text of an object. -/
def textWith (objectText : ObjectId → String) : Value → String
  | null => "null"
  | boolean b => boolText b
  | integer i => integerText i
  | decimal d => d.text
  | string s => s
  | list items => "[" ++ textItems objectText items ++ "]"
  | map entries => "\x7b" ++ textEntries objectText entries ++ "\x7d"
  | object id => objectText id

/-- The texts of the items, separated by commas. -/
def textItems (objectText : ObjectId → String) : List Value → String
  | [] => ""
  | [item] => textWith objectText item
  | item :: next :: rest => textWith objectText item ++ ", " ++ textItems objectText (next :: rest)

/-- The texts of the entries, separated by commas. -/
def textEntries (objectText : ObjectId → String) : List (String × Value) → String
  | [] => ""
  | [(name, value)] => name ++ "=" ++ textWith objectText value
  | (name, value) :: next :: rest =>
    name ++ "=" ++ textWith objectText value ++ ", " ++ textEntries objectText (next :: rest)

end

mutual

/-- Whether a value holds no object at any depth. -/
def isPlain : Value → Bool
  | list items => arePlain items
  | map entries => entriesPlain entries
  | object _ => false
  | _ => true

/-- Whether all items are plain. -/
def arePlain : List Value → Bool
  | [] => true
  | item :: rest => isPlain item && arePlain rest

/-- Whether the values of all entries are plain. -/
def entriesPlain : List (String × Value) → Bool
  | [] => true
  | (_, value) :: rest => isPlain value && entriesPlain rest

end

mutual

/-- Whether a value holds no decimal at any depth. -/
def isDecimalFree : Value → Bool
  | list items => areDecimalFree items
  | map entries => entriesDecimalFree entries
  | decimal _ => false
  | _ => true

/-- Whether all items are free of decimals. -/
def areDecimalFree : List Value → Bool
  | [] => true
  | item :: rest => isDecimalFree item && areDecimalFree rest

/-- Whether the values of all entries are free of decimals. -/
def entriesDecimalFree : List (String × Value) → Bool
  | [] => true
  | (_, value) :: rest => isDecimalFree value && entriesDecimalFree rest

end

mutual

/-- Whether no mapping inside the value holds a name twice. -/
def hasDistinctKeys : Value → Bool
  | list items => itemsDistinct items
  | map entries => entriesDistinct entries
  | _ => true

/-- `hasDistinctKeys` for all items. -/
def itemsDistinct : List Value → Bool
  | [] => true
  | item :: rest => hasDistinctKeys item && itemsDistinct rest

/-- Whether the names are distinct and `hasDistinctKeys` holds for all values. -/
def entriesDistinct : List (String × Value) → Bool
  | [] => true
  | (name, value) :: rest =>
    !Entries.contains rest name && hasDistinctKeys value && entriesDistinct rest

end

end Value

end DynamicSql

import DynamicSql.Value.Basic

/-!
# What values stand for

An integer and a decimal stand for a number, whatever the places of the decimal, and a
mapping stands for the values of its names, whatever their order.  So a value is taken to
what it stands for by forgetting kinds of numbers, places and the order of names, at every
depth.
-/

namespace DynamicSql

/-- The number that a decimal stands for. -/
def Decimal.toRat (d : Decimal) : Rat := mkRat d.signed (tenPow d.scale)

/-- What a value stands for. -/
inductive Meaning
  | null
  | boolean (b : Bool)
  | number (q : Rat)
  | string (s : String)
  | list (items : List Meaning)
  /-- The names in ascending order, each with what its value stands for. -/
  | map (entries : List (String × Meaning))
  | object (id : ObjectId)

namespace Value

/-- The number that a value stands for, if it is one. -/
def number? : Value → Option Rat
  | integer i => some (mkRat i.toInt 1)
  | decimal d => some d.toRat
  | _ => none

mutual

/-- What a value stands for. -/
def meaning : Value → Meaning
  | null => .null
  | boolean b => .boolean b
  | integer i => .number (mkRat i.toInt 1)
  | decimal d => .number d.toRat
  | string s => .string s
  | list items => .list (meanings items)
  | map entries => .map (Entries.sorted (entryMeanings entries))
  | object id => .object id

/-- What the items stand for. -/
def meanings : List Value → List Meaning
  | [] => []
  | item :: rest => meaning item :: meanings rest

/-- What the values of the entries stand for. -/
def entryMeanings : List (String × Value) → List (String × Meaning)
  | [] => []
  | (name, value) :: rest => (name, meaning value) :: entryMeanings rest

end

/-- A value in which no mapping holds a name twice. -/
def Proper : Type := { value : Value // value.hasDistinctKeys = true }

/-! ## Places in containers -/

/-- A container with one place left open. -/
inductive Frame
  | item (before after : List Value)
  | entry (before : Entries Value) (name : String) (after : Entries Value)

/-- Put a value into the open place. -/
def Frame.fill (value : Value) : Frame → Value
  | item before after => .list (before ++ value :: after)
  | entry before name after => .map (before ++ (name, value) :: after)

/-- The containers around a place, from the outside in. -/
abbrev Surroundings := List Frame

/-- Put a value into the place inside all the containers. -/
def Surroundings.fill (value : Value) : Surroundings → Value
  | [] => value
  | frame :: rest => frame.fill (fill value rest)

end Value

end DynamicSql

import DynamicSql.Value.Basic

/-!
# Objects inside values

The objects that stand in a value, at any depth of its lists and mappings, in the order in
which a walk through the value comes by them; and the value with other values in their
places.
-/

namespace DynamicSql.Value

mutual

/-- The objects in a value, in order. -/
def objects : Value → List ObjectId
  | list items => itemObjects items
  | map entries => entryObjects entries
  | object id => [id]
  | _ => []

/-- The objects in the items. -/
def itemObjects : List Value → List ObjectId
  | [] => []
  | item :: rest => objects item ++ itemObjects rest

/-- The objects in the values of the entries. -/
def entryObjects : List (String × Value) → List ObjectId
  | [] => []
  | (_, value) :: rest => objects value ++ entryObjects rest

end

mutual

/-- Put a value in the place of every object; lists keep their length, mappings their names
in order, and everything else stays. -/
def mapObjects (f : ObjectId → Value) : Value → Value
  | list items => list (mapItems f items)
  | map entries => map (mapEntries f entries)
  | object id => f id
  | value => value

/-- Put values in the places of the objects in the items. -/
def mapItems (f : ObjectId → Value) : List Value → List Value
  | [] => []
  | item :: rest => mapObjects f item :: mapItems f rest

/-- Put values in the places of the objects in the values of the entries. -/
def mapEntries (f : ObjectId → Value) : List (String × Value) → List (String × Value)
  | [] => []
  | (name, value) :: rest => (name, mapObjects f value) :: mapEntries f rest

end

end DynamicSql.Value

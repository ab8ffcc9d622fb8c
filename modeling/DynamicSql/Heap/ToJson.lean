import DynamicSql.Heap.Access
import DynamicSql.Json.Basic

/-!
# Values as JSON

Mappings become objects sorted by name, decimals become strings that keep every
digit, and host objects become objects of their readable properties.  Objects
that refer back to each other have no JSON form: the search for it goes as deep
as there are objects and then gives up.
-/

namespace DynamicSql.Heap

mutual

/-- The JSON form of a value, given that of objects; `none` if that is unknown. -/
def jsonWith (objectJson : ObjectId → Option (Except AccessError Json)) :
    Value → Option (Except AccessError Json)
  | .null => some (.ok .null)
  | .boolean b => some (.ok (.bool b))
  | .integer i => some (.ok (.number (.integer i.toInt)))
  | .decimal d => some (.ok (.string d.text))
  | .string s => some (.ok (.string s))
  | .list items => (jsonItems objectJson items).map fun items => items.map .array
  | .map entries =>
    (jsonEntries objectJson entries).map fun members =>
      members.map fun members => .object (Entries.sorted members)
  | .object id => objectJson id

/-- The JSON forms of the items; the first error counts. -/
def jsonItems (objectJson : ObjectId → Option (Except AccessError Json)) :
    List Value → Option (Except AccessError (List Json))
  | [] => some (.ok [])
  | item :: rest =>
    match jsonWith objectJson item with
    | none => none
    | some (.error error) => some (.error error)
    | some (.ok item) => (jsonItems objectJson rest).map fun rest => rest.map (item :: ·)

/-- The JSON forms of the entries; the first error counts. -/
def jsonEntries (objectJson : ObjectId → Option (Except AccessError Json)) :
    List (String × Value) → Option (Except AccessError (List (String × Json)))
  | [] => some (.ok [])
  | (name, value) :: rest =>
    match jsonWith objectJson value with
    | none => none
    | some (.error error) => some (.error error)
    | some (.ok json) => (jsonEntries objectJson rest).map fun rest => rest.map ((name, json) :: ·)

end

variable (heap : Heap)

/-- Read the named properties and take their JSON forms; the first error counts. -/
def jsonProperties (valueJson : Value → Option (Except AccessError Json)) (id : ObjectId) :
    List String → Option (Except AccessError (List (String × Json)))
  | [] => some (.ok [])
  | name :: rest =>
    match heap.read id name with
    | .error error => some (.error error)
    | .ok value =>
      match valueJson value with
      | none => none
      | some (.error error) => some (.error error)
      | some (.ok json) =>
        (jsonProperties valueJson id rest).map fun rest => rest.map ((name, json) :: ·)

/-- The JSON form of an object, following at most `depth` references. -/
def objectJsonTo : (depth : Nat) → ObjectId → Option (Except AccessError Json)
  | 0, _ => none
  | depth + 1, id =>
    (heap.jsonProperties (jsonWith (objectJsonTo depth)) id (heap.table id).readableNames).map
      fun members => members.map .object

/-- The JSON form of a value, following at most `depth` references. -/
def toJsonTo (depth : Nat) (value : Value) : Option (Except AccessError Json) :=
  jsonWith (heap.objectJsonTo depth) value

/-- The JSON form of a value; `none` if objects refer back to each other. -/
def toJson (value : Value) : Option (Except AccessError Json) :=
  heap.toJsonTo (heap.cells.length + 1) value

end DynamicSql.Heap

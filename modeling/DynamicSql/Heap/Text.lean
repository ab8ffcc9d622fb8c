import DynamicSql.Heap.Basic

/-!
# The text of objects

An object shows the short name of its type and its slots, the values in plain
text.  While an object is being written it is locked, and its slots are not
shown.  Objects nest in the text as deep as there are objects; a reference chain
that is longer runs in a circle and has no text.
-/

namespace DynamicSql.Heap

/-- The text of an object, to a given depth. -/
def objectTextTo (heap : Heap) (locked : Option ObjectId) : (depth : Nat) → ObjectId → String
  | 0, _ => ""
  | depth + 1, id =>
    let name := (heap.typeOf id).shortName
    if locked = some id then name ++ "(<locked>)"
    else
      name ++ "(" ++
        ";".intercalate ((heap.cell id).slots.map fun (slot, value) =>
          slot ++ ":" ++ value.textWith (objectTextTo heap locked depth)) ++ ")"

/-- The text of an object while another one may be locked. -/
def objectText (heap : Heap) (locked : Option ObjectId) (id : ObjectId) : String :=
  heap.objectTextTo locked (heap.cells.length + 1) id

/-- The plain text of a value. -/
def text (heap : Heap) (value : Value) : String := value.textWith (heap.objectText none)

mutual

/-- The diagnostic text of a value. -/
def debugText (heap : Heap) : Value → String
  | .null => "Null"
  | .boolean b => "Boolean(" ++ Value.boolText b ++ ")"
  | .integer i => "Integer(" ++ Value.integerText i ++ ")"
  | .decimal d => "Decimal(" ++ d.text ++ ")"
  | .string s => "String(" ++ Text.quoted s ++ ")"
  | .list items => "[" ++ debugItems heap items ++ "]"
  | .map entries => "\x7b" ++ debugEntries heap entries ++ "\x7d"
  | .object id => "Object(" ++ heap.objectText none id ++ ")"

/-- The diagnostic texts of the items, separated by commas. -/
def debugItems (heap : Heap) : List Value → String
  | [] => ""
  | [item] => debugText heap item
  | item :: next :: rest => debugText heap item ++ ", " ++ debugItems heap (next :: rest)

/-- The diagnostic texts of the entries, separated by commas. -/
def debugEntries (heap : Heap) : List (String × Value) → String
  | [] => ""
  | [(name, value)] => Text.quoted name ++ ": " ++ debugText heap value
  | (name, value) :: next :: rest =>
    Text.quoted name ++ ": " ++ debugText heap value ++ ", " ++ debugEntries heap (next :: rest)

end

end DynamicSql.Heap

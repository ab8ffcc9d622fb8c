import DynamicSql.Heap.Access

/-!
# Coders

A coder turns host objects of one type into plain values before they leave the
engine.  Encoding a value replaces every object that has a coder, inside lists
and mappings too; the first coder that fails makes the whole encoding fail.
-/

namespace DynamicSql

/-- Turns an object into a value. -/
abbrev Coder := Heap → ObjectId → Except AccessError Value

/-- The coders by host type. -/
abbrev Coders := List (TypeKey × Coder)

namespace Coders

/-- The coder of a type. -/
def forType? : Coders → TypeKey → Option Coder
  | [], _ => none
  | (key, coder) :: rest, type => if key = type then some coder else forType? rest type

/-- Add a coder, in place of an earlier one for the type. -/
def register : Coders → TypeKey → Coder → Coders
  | [], type, coder => [(type, coder)]
  | (key, old) :: rest, type, coder =>
    if key = type then (key, coder) :: rest else (key, old) :: register rest type coder

/-- The coder of a value; only objects have coders. -/
def find? (coders : Coders) (heap : Heap) : Value → Option Coder
  | .object id => coders.forType? (heap.typeOf id)
  | _ => none

/-- Whether a value has a coder. -/
def covers (coders : Coders) (heap : Heap) (value : Value) : Bool :=
  (coders.find? heap value).isSome

mutual

/-- Replace the objects that have coders. -/
def encode (coders : Coders) (heap : Heap) : Value → Except AccessError Value
  | .list items => do .ok (.list (← encodeItems coders heap items))
  | .map entries => do .ok (.map (← encodeEntries coders heap entries))
  | .object id =>
    match coders.forType? (heap.typeOf id) with
    | some coder => coder heap id
    | none => .ok (.object id)
  | value => .ok value

/-- Encode every item. -/
def encodeItems (coders : Coders) (heap : Heap) : List Value → Except AccessError (List Value)
  | [] => .ok []
  | item :: rest => do
    let item ← encode coders heap item
    let rest ← encodeItems coders heap rest
    .ok (item :: rest)

/-- Encode the values of all entries. -/
def encodeEntries (coders : Coders) (heap : Heap) :
    List (String × Value) → Except AccessError (List (String × Value))
  | [] => .ok []
  | (name, value) :: rest => do
    let value ← encode coders heap value
    let rest ← encodeEntries coders heap rest
    .ok ((name, value) :: rest)

end

/-- The diagnostic text. -/
def debugText (coders : Coders) : String :=
  Text.record "CoderRegistry"
    [("types", Text.bracketed (coders.map fun entry => Text.quoted entry.1.fullName))]

end Coders

end DynamicSql

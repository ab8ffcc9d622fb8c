import DynamicSql.Property.Table

/-!
# The heap of host objects

A host object is a cell: its type and its slots in order.  References are shared,
so a write through one of them is seen through all.  A type describes itself
always in the same way.
-/

namespace DynamicSql

/-- A host object. -/
structure Cell where
  type : TypeKey
  slots : Entries Value

/-- All host objects, with the description of every type. -/
structure Heap where
  describe : TypeKey → ClassDecl
  cells : List Cell

namespace Heap

/-- The type of references that lead nowhere. -/
def nowhere : TypeKey := ⟨0, ""⟩

/-- A heap without objects whose types have no members. -/
def empty : Heap := ⟨fun key => .empty key.shortName, []⟩

variable (heap : Heap)

/-- The object behind a reference; one that leads nowhere has no slots. -/
def cell (id : ObjectId) : Cell := (heap.cells[id.index]?).getD ⟨nowhere, []⟩

/-- The type of an object. -/
def typeOf (id : ObjectId) : TypeKey := (heap.cell id).type

/-- The value of a slot; a missing slot is null. -/
def slot (id : ObjectId) (name : String) : Value := ((heap.cell id).slots.get? name).getD .null

/-- Store a value in a slot. -/
def setSlot (id : ObjectId) (name : String) (value : Value) : Heap :=
  { heap with
    cells := heap.cells.modify id.index fun cell =>
      { cell with slots := cell.slots.put name value } }

/-- Add an object. -/
def alloc (type : TypeKey) (slots : Entries Value) : ObjectId × Heap :=
  (⟨heap.cells.length⟩, { heap with cells := heap.cells ++ [⟨type, slots⟩] })

/-- The class of an object. -/
def classOf (id : ObjectId) : ClassDecl :=
  match heap.cells[id.index]? with
  | some cell => heap.describe cell.type
  | none => .empty ""

/-- The property table of a type. -/
def tableFor (type : TypeKey) : PropertyTable := .build type (heap.describe type)

/-- The property table of an object. -/
def table (id : ObjectId) : PropertyTable := .build (heap.typeOf id) (heap.classOf id)

/-- The kind of a value; for an object the short name of its type. -/
def kind (value : Value) : String := value.kindWith fun id => (heap.typeOf id).shortName

end Heap

end DynamicSql

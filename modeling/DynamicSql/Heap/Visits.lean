import DynamicSql.Heap.ToJson
import DynamicSql.Value.Objects
import DynamicSql.Walk
import Mathlib.Data.List.Chain

/-!
# Objects that a rendering visits

The rendering of an object reads its properties one after the other and renders what it
finds, so it visits the objects in their values in order; the first that has no JSON form
ends it.  Nothing keeps track of the objects that are being rendered, and a rendering that
comes back to one of them goes round and round.
-/

namespace DynamicSql.Heap

variable (heap : Heap)

/-- The values of properties in order, up to the first that cannot be read. -/
def readable (id : ObjectId) : List String → List Value
  | [] => []
  | name :: rest =>
    match heap.read id name with
    | .ok value => value :: readable id rest
    | .error _ => []

/-- The objects that stand in the properties of an object, in the order in which its rendering
comes by them. -/
def held (id : ObjectId) : List ObjectId :=
  (heap.readable id (heap.table id).readableNames).flatMap Value.objects

/-- Whether an object has a JSON form at some depth. -/
def Rendered (id : ObjectId) : Prop :=
  ∃ depth json, heap.objectJsonTo depth id = some (.ok json)

/-- Whether the rendering of an object gets to another one: everything that it comes by before
has a JSON form. -/
def Visits (id other : ObjectId) : Prop := WalkReaches heap.Rendered (heap.held id) other

/-- Whether the rendering of a value comes back to an object while that one is still being
rendered: there is a chain of objects, each visited by the one before, that holds an object
twice. -/
def ComesBack (value : Value) : Prop :=
  ∃ first rest, WalkReaches heap.Rendered value.objects first ∧
    List.IsChain heap.Visits (first :: rest) ∧ ¬ (first :: rest).Nodup

end DynamicSql.Heap

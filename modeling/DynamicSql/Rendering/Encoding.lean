import DynamicSql.Rendering.Coders
import DynamicSql.Value.Objects

/-!
# What a registry of coders does to single objects

An object with a coder becomes what its coder makes of it; an object without one stays as
it is, and so does an object whose coder fails.
-/

namespace DynamicSql.Coders

/-- What becomes of an object: the outcome of its coder, or the object itself. -/
def encodeObject (coders : Coders) (heap : Heap) (id : ObjectId) : Except AccessError Value :=
  match coders.forType? (heap.typeOf id) with
  | some coder => coder heap id
  | none => .ok (.object id)

/-- The value that comes in the place of an object. -/
def replacement (coders : Coders) (heap : Heap) (id : ObjectId) : Value :=
  match coders.encodeObject heap id with
  | .ok value => value
  | .error _ => .object id

/-- The objects in a value that have a coder, in order. -/
def coded (coders : Coders) (heap : Heap) (value : Value) : List ObjectId :=
  value.objects.filter fun id => coders.covers heap (.object id)

/-- Whether the coder of an object makes a value of it. -/
def Encodes (coders : Coders) (heap : Heap) (id : ObjectId) : Prop :=
  ∃ value, coders.encodeObject heap id = .ok value

end DynamicSql.Coders

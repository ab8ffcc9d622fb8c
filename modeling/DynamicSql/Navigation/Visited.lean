import DynamicSql.Heap.Backing
import DynamicSql.Navigation.Write

/-!
# The host objects on a path

A path may lead through host objects: from the value itself, from one of their
properties, or from inside the mappings and lists that they hold.  `visited`
lists them in the order of the path, each with the property that is asked of it.
A write through objects that all keep the property in one slot ends in the last of
these slots; `comesBack` says that the path has been in that slot before.
-/

namespace DynamicSql.Navigation

/-- The objects that a path goes through, as far as it can be read, each with the
property that the path asks of it. -/
def visited (heap : Heap) (value : Value) : List Path.Step → List (ObjectId × String)
  | [] => []
  | step :: rest =>
    let further := match getStep heap value step with
      | .ok child => visited heap child rest
      | .error _ => []
    match value with
    | .object id => (id, step.name) :: further
    | _ => further

/-- The objects that a path goes through, each with the slot that backs the
property that the path asks of it. -/
def passedSlots (heap : Heap) (value : Value) (steps : List Path.Step) :
    List (ObjectId × Option String) :=
  (visited heap value steps).map fun (id, property) => (id, heap.backing? id property)

/-- Whether the last item of a list stands in it before, too. -/
def endsOnEarlier {α : Type} [DecidableEq α] (items : List α) : Bool :=
  match items.reverse with
  | [] => false
  | last :: earlier => decide (last ∈ earlier)

/-- Whether the slot that a path ends in is one that it has come through before. -/
def comesBack (heap : Heap) (value : Value) (path : String) : Bool :=
  endsOnEarlier (passedSlots heap value (Path.steps path))

end DynamicSql.Navigation

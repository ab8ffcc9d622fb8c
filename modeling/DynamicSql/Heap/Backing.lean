import DynamicSql.Heap.Access

/-!
# Properties that are backed by one slot

A property may be read from one slot and written to another, or convert what is
written.  The plain case is a property that is read and written through the same
slot as it is.
-/

namespace DynamicSql.Heap

/-- The slot that a property of an object is both read from and written to without
a conversion, if there is one. -/
def backing? (heap : Heap) (id : ObjectId) (property : String) : Option String :=
  match (heap.table id).reader property, (heap.table id).writer property with
  | .ok reader, .ok writer =>
    match reader.readBody, writer.writeBody with
    | .ok (.slot source), .ok ⟨target, .any⟩ => if source = target then some source else none
    | _, _ => none
  | _, _ => none

end DynamicSql.Heap

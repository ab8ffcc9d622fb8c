import DynamicSql.Heap.Access
import DynamicSql.Path
import DynamicSql.Text.Blank

/-!
# Reading along a path

A step reads a property of an object or an entry of a mapping; with an index it
goes on to an entry or a position of what it read.  A step without a name
indexes the value itself.  Null along the way makes the whole path null, a
scalar along the way is a dead end.
-/

namespace DynamicSql.Navigation

/-- The position that an index stands for. -/
def position? (index : String) : Option Nat :=
  Text.readBelow (twoPow 64) (Text.trim index.toList)

/-- Read a property of an object or an entry of a mapping. -/
def getProperty (heap : Heap) (value : Value) (name : String) : Except AccessError Value :=
  match value with
  | .object id => heap.read id name
  | .map entries => .ok ((Entries.get? entries name).getD .null)
  | other => .error (.noGetter name (heap.kind other))

/-- Read an entry of a mapping or a position of a list. -/
def indexInto (collection : Value) (index name : String) : Except AccessError Value :=
  match collection with
  | .map entries => .ok ((Entries.get? entries index).getD .null)
  | .list items =>
    match (position? index).bind (items[·]?) with
    | some item => .ok item
    | none => .error (.invalidIndex index name)
  | _ => .error (.invalidIndex index name)

/-- What the index of a step is applied to. -/
def indexed (heap : Heap) (value : Value) (step : Path.Step) : Except AccessError Value :=
  if step.name = "" then .ok value else getProperty heap value step.name

/-- Read one step. -/
def getStep (heap : Heap) (value : Value) (step : Path.Step) : Except AccessError Value :=
  match step.index with
  | some index => do indexInto (← indexed heap value step) index step.name
  | none => getProperty heap value step.name

/-- Whether a path can go on behind a value. -/
def isTraversable : Value → Bool
  | .object _ | .map _ | .list _ => true
  | _ => false

/-- Read along steps. -/
def get (heap : Heap) (value : Value) : List Path.Step → Except AccessError Value
  | [] => .ok value
  | [step] => getStep heap value step
  | step :: next :: rest => do
    let child ← getStep heap value step
    if child.isNull then .ok .null
    else if isTraversable child then get heap child (next :: rest)
    else .error (.deadEnd (Path.text (step :: next :: rest)) step.text)

/-- Read the value at a path. -/
def getPath (heap : Heap) (value : Value) (path : String) : Except AccessError Value :=
  get heap value (Path.steps path)

end DynamicSql.Navigation

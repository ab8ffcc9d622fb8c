import DynamicSql.Navigation.Read

/-!
# Writing along a path

A write reads its way down, creating a mapping or a list where it meets null,
stores the value at the last step, and stores changed mappings and lists back
into what holds them on the way up.  Objects are shared, so a change inside an
object needs no storing back.  Each single step either fails and changes nothing
or takes effect as a whole.
-/

namespace DynamicSql.Navigation

/-- The outcome of a write: the value that was written into, or an error, and the
heap afterwards. -/
structure Written where
  outcome : Except AccessError Value
  heap : Heap

/-- A write that failed before it changed anything. -/
def Written.failed (heap : Heap) (error : AccessError) : Written := ⟨.error error, heap⟩

/-- Store a property of an object or an entry of a mapping. -/
def setProperty (heap : Heap) (value : Value) (name : String) (new : Value) :
    Except AccessError (Value × Heap) :=
  match value with
  | .object id => (heap.write id name new).map fun heap => (.object id, heap)
  | .map entries => .ok (.map (Entries.put entries name new), heap)
  | other => .error (.noSetter name (heap.kind other))

/-- Store an entry of a mapping or a position of a list; a position must exist. -/
def storeAt (collection : Value) (index name : String) (new : Value) : Except AccessError Value :=
  match collection with
  | .map entries => .ok (.map (Entries.put entries index new))
  | .list items =>
    match position? index with
    | some position =>
      if position < items.length then .ok (.list (items.set position new))
      else .error (.invalidIndex index name)
    | none => .error (.invalidIndex index name)
  | _ => .error (.invalidIndex index name)

/-- Store at one step. -/
def setStep (heap : Heap) (value : Value) (step : Path.Step) (new : Value) :
    Except AccessError (Value × Heap) :=
  match step.index with
  | some index => do
    let collection ← storeAt (← indexed heap value step) index step.name new
    if step.name = "" then .ok (collection, heap)
    else setProperty heap value step.name collection
  | none => setProperty heap value step.name new

/-- `setStep` as a write. -/
def writeStep (heap : Heap) (value : Value) (step : Path.Step) (new : Value) : Written :=
  match setStep heap value step new with
  | .ok (value, heap) => ⟨.ok value, heap⟩
  | .error error => .failed heap error

/-- What is put in place of null on the way down: a list where the setter of an
object wants a list, else a mapping where that is possible. -/
def placeholder (heap : Heap) (value : Value) (steps : List Path.Step) (step : Path.Step) :
    Except AccessError Value := do
  let type ← match value with
    | .object id => (heap.table id).setterType step.name
    | _ => .ok .map
  match type with
  | .map | .any => .ok (.map [])
  | .list _ | .array _ => .ok (.list [])
  | _ => .error (.deadEnd (Path.text steps) step.text)

/-- Write along steps.  Writing null behind null does nothing. -/
def set (heap : Heap) (value : Value) : List Path.Step → Value → Written
  | [], new => ⟨.ok new, heap⟩
  | [step], new => writeStep heap value step new
  | step :: next :: rest, new =>
    let steps := step :: next :: rest
    match getStep heap value step with
    | .error error => .failed heap error
    | .ok child =>
      if child.isNull && new.isNull then ⟨.ok value, heap⟩
      else
        match if child.isNull then placeholder heap value steps step else .ok child with
        | .error error => .failed heap error
        | .ok start =>
          if isTraversable start then
            match set heap start (next :: rest) new with
            | ⟨.error error, heap⟩ => .failed heap error
            | ⟨.ok changed, heap⟩ =>
              if child.isNull || changed.isContainer then writeStep heap value step changed
              else ⟨.ok value, heap⟩
          else .failed heap (.deadEnd (Path.text steps) step.text)

/-- Write the value at a path. -/
def setPath (heap : Heap) (value : Value) (path : String) (new : Value) : Written :=
  set heap value (Path.steps path) new

end DynamicSql.Navigation

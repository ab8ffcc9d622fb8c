import DynamicSql.Navigation.Write

/-!
# Writing in place

A navigator holds the value that it navigates, together with the heap that the
references in the value lead into.  A write changes the navigator as it goes: a
mapping or list on the way down is copied into a navigator of its own, which works
on the same heap, and the copy is stored back when it has been written into.  What
the navigator holds after a failed write is whatever the write had reached.
-/

namespace DynamicSql.Navigation

/-- A value that is navigated, with the heap that its references lead into. -/
structure Navigator where
  value : Value
  heap : Heap

namespace Navigator

/-- Store a property of an object or an entry of a mapping. -/
def setProperty (nav : Navigator) (name : String) (new : Value) :
    Except AccessError Unit × Navigator :=
  match nav.value with
  | .object id =>
    match nav.heap.write id name new with
    | .ok heap => (.ok (), { nav with heap := heap })
    | .error error => (.error error, nav)
  | .map entries => (.ok (), { nav with value := .map (Entries.put entries name new) })
  | other => (.error (.noSetter name (nav.heap.kind other)), nav)

/-- Store at one step. -/
def setStep (nav : Navigator) (step : Path.Step) (new : Value) :
    Except AccessError Unit × Navigator :=
  match step.index with
  | none => nav.setProperty step.name new
  | some index =>
    match indexed nav.heap nav.value step with
    | .error error => (.error error, nav)
    | .ok collection =>
      match storeAt collection index step.name new with
      | .error error => (.error error, nav)
      | .ok stored =>
        if step.name = "" then (.ok (), { nav with value := stored })
        else nav.setProperty step.name stored

/-- Write along steps. -/
def set (nav : Navigator) : List Path.Step → Value → Except AccessError Unit × Navigator
  | [], new => (.ok (), { nav with value := new })
  | [step], new => nav.setStep step new
  | step :: next :: rest, new =>
    let steps := step :: next :: rest
    match getStep nav.heap nav.value step with
    | .error error => (.error error, nav)
    | .ok child =>
      if child.isNull && new.isNull then (.ok (), nav)
      else
        match if child.isNull then placeholder nav.heap nav.value steps step else .ok child with
        | .error error => (.error error, nav)
        | .ok start =>
          if isTraversable start then
            match Navigator.set ⟨start, nav.heap⟩ (next :: rest) new with
            | (.error error, inner) => (.error error, { nav with heap := inner.heap })
            | (.ok (), inner) =>
              let nav := { nav with heap := inner.heap }
              if child.isNull || inner.value.isContainer then nav.setStep step inner.value
              else (.ok (), nav)
          else (.error (.deadEnd (Path.text steps) step.text), nav)

/-- Write the value at a path. -/
def setPath (nav : Navigator) (path : String) (new : Value) :
    Except AccessError Unit × Navigator :=
  nav.set (Path.steps path) new

end Navigator

end DynamicSql.Navigation

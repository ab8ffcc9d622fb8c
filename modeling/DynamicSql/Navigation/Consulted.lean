import DynamicSql.Navigation.Probe
import DynamicSql.Navigation.Write

/-!
# The types a navigation consults

Navigating asks for the property table of every object on the way.  These
functions list the types of those objects in the order in which they are asked
for, so that the requests to a table cache can be counted.
-/

namespace DynamicSql.Navigation

/-- The type asked for when a value is an object. -/
def consulted (heap : Heap) : Value → List TypeKey
  | .object id => [heap.typeOf id]
  | _ => []

/-- The types that reading one step consults. -/
def stepConsults (heap : Heap) (value : Value) (step : Path.Step) : List TypeKey :=
  if step.index.isSome && step.name = "" then [] else consulted heap value

/-- The types that reading along steps consults. -/
def getConsults (heap : Heap) (value : Value) : List Path.Step → List TypeKey
  | [] => []
  | [step] => stepConsults heap value step
  | step :: next :: rest =>
    stepConsults heap value step ++
      match getStep heap value step with
      | .ok child => if isTraversable child then getConsults heap child (next :: rest) else []
      | .error _ => []

/-- The types that asking about the last reachable step consults. -/
def probeConsults (heap : Heap) (value : Value) : List Path.Step → List TypeKey
  | [] => []
  | [_] => consulted heap value
  | step :: next :: rest =>
    stepConsults heap value step ++
      match getStep heap value step with
      | .ok child =>
        if child.isNull then consulted heap value else probeConsults heap child (next :: rest)
      | .error _ => []

/-- The types that storing at one step consults. -/
def setStepConsults (heap : Heap) (value : Value) (step : Path.Step) (new : Value) :
    List TypeKey :=
  match step.index with
  | none => consulted heap value
  | some index =>
    stepConsults heap value step ++
      match indexed heap value step with
      | .ok collection =>
        match storeAt collection index step.name new with
        | .ok _ => if step.name = "" then [] else consulted heap value
        | .error _ => []
      | .error _ => []

/-- The types that writing along steps consults. -/
def setConsults (heap : Heap) (value : Value) : List Path.Step → Value → List TypeKey
  | [], _ => []
  | [step], new => setStepConsults heap value step new
  | step :: next :: rest, new =>
    let steps := step :: next :: rest
    stepConsults heap value step ++
      match getStep heap value step with
      | .error _ => []
      | .ok child =>
        if child.isNull && new.isNull then []
        else
          (if child.isNull then consulted heap value else []) ++
            match if child.isNull then placeholder heap value steps step else .ok child with
            | .error _ => []
            | .ok start =>
              if isTraversable start then
                setConsults heap start (next :: rest) new ++
                  match set heap start (next :: rest) new with
                  | ⟨.error _, _⟩ => []
                  | ⟨.ok changed, heap⟩ =>
                    if child.isNull || changed.isContainer then
                      setStepConsults heap value step changed
                    else []
              else []

end DynamicSql.Navigation

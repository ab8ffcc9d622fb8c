import DynamicSql.Navigation.Read

/-!
# Asking about a path

Whether a path can be read or written, what type it is declared with, and how a
property is spelled.  Behind null only the name of the step itself is asked for.
-/

namespace DynamicSql.Navigation

/-- Whether a value has a readable property or entry. -/
def hasGetterStep (heap : Heap) (value : Value) (name : String) : Bool :=
  match value with
  | .object id => (heap.table id).hasGetter name
  | .map entries => Entries.contains entries name
  | _ => false

/-- Whether a value has a writable property; a mapping takes every name. -/
def hasSetterStep (heap : Heap) (value : Value) (name : String) : Bool :=
  match value with
  | .object id => (heap.table id).hasSetter name
  | .map _ => true
  | _ => false

/-- Ask `ask` about the last step that can be reached. -/
def probe (ask : Value → String → Bool) (heap : Heap) (value : Value) : List Path.Step → Bool
  | [] => false
  | [step] => ask value step.name
  | step :: next :: rest =>
    match getStep heap value step with
    | .ok child =>
      if child.isNull then ask value step.name else probe ask heap child (next :: rest)
    | .error _ => false

/-- Whether a path can be read. -/
def hasGetter (heap : Heap) (value : Value) (path : String) : Bool :=
  probe (hasGetterStep heap) heap value (Path.steps path)

/-- Whether a path can be written. -/
def hasSetter (heap : Heap) (value : Value) (path : String) : Bool :=
  probe (hasSetterStep heap) heap value (Path.steps path)

/-- The type that a value is taken for. -/
def typeOf (heap : Heap) : Value → DeclaredType
  | .null => .any
  | .boolean _ => .boolean
  | .integer _ => .long
  | .decimal _ => .decimal
  | .string _ => .string
  | .list _ => .list .any
  | .map _ => .map
  | .object id => .named (heap.classOf id).nominalType

/-- The declared type of a property of an object, or the type of an entry of a
mapping. -/
def propertyType (heap : Heap) (value : Value) (name : String) : Except AccessError DeclaredType :=
  match value with
  | .object id => (heap.table id).getterType name
  | .map entries => .ok (((Entries.get? entries name).map (typeOf heap)).getD .any)
  | other => .error (.noGetter name (heap.kind other))

/-- The declared type along steps. -/
def stepsType (heap : Heap) (value : Value) : List Path.Step → Except AccessError DeclaredType
  | [] => .ok (typeOf heap value)
  | [step] => propertyType heap value step.name
  | step :: next :: rest => do
    let child ← getStep heap value step
    if child.isNull then propertyType heap value step.name
    else stepsType heap child (next :: rest)

/-- The declared type of the value at a path. -/
def getterType (heap : Heap) (value : Value) (path : String) : Except AccessError DeclaredType :=
  stepsType heap value (Path.steps path)

/-- The spelling of a property given in any case, and optionally with underscores
between its words; a mapping takes every name as it is. -/
def findProperty? (heap : Heap) (value : Value) (name : String) (dropUnderscores : Bool) :
    Option String :=
  let name := if dropUnderscores then String.ofList (name.toList.filter (· ≠ '_')) else name
  match value with
  | .object id => (heap.table id).findName? name
  | .map _ => some name
  | _ => none

/-- The readable names of a value. -/
def getterNames (heap : Heap) : Value → List String
  | .object id => (heap.table id).readableNames
  | .map entries => Entries.keys entries
  | _ => []

/-- The writable names of a value. -/
def setterNames (heap : Heap) : Value → List String
  | .object id => (heap.table id).writableNames
  | .map entries => Entries.keys entries
  | _ => []

/-- The diagnostic text of a value that is navigated. -/
def debugText (heap : Heap) (value : Value) : String :=
  Text.record "MetaObject" [("object", heap.debugText value)]

end DynamicSql.Navigation

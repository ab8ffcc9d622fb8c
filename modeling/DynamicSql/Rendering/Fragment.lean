import DynamicSql.Rendering.Context

/-!
# Fragment trees

A fragment is SQL text, an expression bound to a name, a group of fragments, or
an action of its own.  Applying one appends to a context in document order.  A
fragment may refuse to apply; like an error that stops everything after it, and
what was done before stays.
-/

namespace DynamicSql

/-- What a rendering works on: its context, and the objects that the context refers to. -/
structure Rendering where
  heap : Heap
  context : Context

/-- What a fragment does to a rendering: whether it applied, and the rendering
afterwards. -/
abbrev Action := Engine → Rendering → Except RenderError Bool × Rendering

/-- A tree of fragments. -/
inductive Fragment
  | text (sql : String)
  | bind (name expression : String)
  | mixed (children : List Fragment)
  | custom (action : Action)

namespace Action

/-- Append a text. -/
def text (sql : String) : Action := fun _ state =>
  (.ok true, { state with context := state.context.append sql })

/-- Bind the value of an expression to a name. -/
def bind (name expression : String) : Action := fun engine state =>
  match state.context.evaluate engine state.heap expression with
  | (.ok value, context) => (.ok true, { state with context := context.bind name value })
  | (.error error, context) => (.error error, { state with context := context })

/-- Do nothing and refuse. -/
def refuse : Action := fun _ state => (.ok false, state)

/-- One action after the other, if the first applies. -/
def andThen (first second : Action) : Action := fun engine state =>
  match first engine state with
  | (.ok true, state) => second engine state
  | stopped => stopped

/-- Do nothing. -/
def done : Action := fun _ state => (.ok true, state)

/-- Several actions in order, up to the first that does not apply. -/
def sequence (actions : List Action) : Action := actions.foldr andThen done

end Action

namespace Fragment

mutual

/-- Apply a fragment. -/
def apply : Fragment → Action
  | text sql => .text sql
  | bind name expression => .bind name expression
  | mixed children => applyAll children
  | custom action => action

/-- Apply fragments in order, up to the first that does not apply. -/
def applyAll : List Fragment → Action
  | [] => .done
  | child :: rest => (apply child).andThen (applyAll rest)

end

mutual

/-- The actions of the leaves, in document order. -/
def leaves : Fragment → List Action
  | text sql => [.text sql]
  | bind name expression => [.bind name expression]
  | mixed children => leavesAll children
  | custom action => [action]

/-- The leaves of several fragments. -/
def leavesAll : List Fragment → List Action
  | [] => []
  | child :: rest => leaves child ++ leavesAll rest

end

/-- Render a tree for a parameter. -/
def render (fragment : Fragment) (engine : Engine) (heap : Heap) (parameter : Value) :
    Except RenderError BoundSql :=
  match fragment.apply engine ⟨heap, .new engine heap parameter⟩ with
  | (.ok _, after) => .ok after.context.finish
  | (.error error, _) => .error error

end Fragment

end DynamicSql

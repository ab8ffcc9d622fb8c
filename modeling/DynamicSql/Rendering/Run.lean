import DynamicSql.Rendering.Fragment

/-!
# Runs

What can be done to a rendering from its start on, in any order and at any length: names
are bound, fragments of SQL text are appended, numbers are drawn, texts are evaluated,
trees are applied, and the objects that the context refers to are written to.  A tree
may hold actions of its own, and what such an action does is a run again.  With a run go
the values that it gives to names, so that one can say which names it leaves alone.
-/

namespace DynamicSql

/-- The values that evaluating a text gives to names. -/
def Context.assigned (context : Context) (engine : Engine) (heap : Heap) (text : String) :
    Assignments :=
  (engine.evaluator heap (context.bindings.resolve heap) text).assigned

namespace Rendering

mutual

/-- From one rendering to another, with the values that are given to names on the way.  Every
point on the way is the end of a run too: a leaf of a tree does what some steps do. -/
inductive Run (engine : Engine) : Rendering → Assignments → Rendering → Prop
  | start (state : Rendering) : Run engine state [] state
  | bind {start state : Rendering} {made : Assignments} (h : Run engine start made state)
      (name : String) (value : Value) :
      Run engine start (made ++ [(name, value)])
        { state with context := state.context.bind name value }
  | append {start state : Rendering} {made : Assignments} (h : Run engine start made state)
      (sql : String) :
      Run engine start made { state with context := state.context.append sql }
  | number {start state : Rendering} {made : Assignments} (h : Run engine start made state) :
      Run engine start made { state with context := state.context.uniqueNumber.2 }
  | objects {start state : Rendering} {made : Assignments} (h : Run engine start made state)
      (heap : Heap) : Run engine start made { state with heap := heap }
  | evaluate {start state : Rendering} {made : Assignments} (h : Run engine start made state)
      (text : String) :
      Run engine start (made ++ state.context.assigned engine state.heap text)
        { state with context := (state.context.evaluate engine state.heap text).2 }
  | apply {start state next : Rendering} {made more : Assignments} {fragment : Fragment}
      {outcome : Except RenderError Bool} (h : Run engine start made state)
      (hfragment : Applies engine [fragment] state more outcome next) :
      Run engine start (made ++ more) next

/-- Applying fragments in order up to the first that does not apply, with the values that
are given to names and the outcome. -/
inductive Applies (engine : Engine) :
    List Fragment → Rendering → Assignments → Except RenderError Bool → Rendering → Prop
  | done (state : Rendering) : Applies engine [] state [] (.ok true) state
  | text {rest : List Fragment} {state final : Rendering} {made : Assignments}
      {outcome : Except RenderError Bool} {sql : String}
      (hrest : Applies engine rest { state with context := state.context.append sql } made
        outcome final) :
      Applies engine (.text sql :: rest) state made outcome final
  | bind {rest : List Fragment} {state final : Rendering} {made : Assignments}
      {outcome : Except RenderError Bool} {name expression : String} {value : Value}
      {context : Context}
      (h : state.context.evaluate engine state.heap expression = (.ok value, context))
      (hrest : Applies engine rest { state with context := context.bind name value } made
        outcome final) :
      Applies engine (.bind name expression :: rest) state
        (state.context.assigned engine state.heap expression ++ (name, value) :: made) outcome
        final
  | failed {rest : List Fragment} {state : Rendering} {name expression : String}
      {error : RenderError} {context : Context}
      (h : state.context.evaluate engine state.heap expression = (.error error, context)) :
      Applies engine (.bind name expression :: rest) state
        (state.context.assigned engine state.heap expression) (.error error)
        { state with context := context }
  | mixed {children rest : List Fragment} {state final : Rendering} {made : Assignments}
      {outcome : Except RenderError Bool}
      (h : Applies engine (children ++ rest) state made outcome final) :
      Applies engine (.mixed children :: rest) state made outcome final
  | custom {rest : List Fragment} {state next final : Rendering} {made more : Assignments}
      {outcome : Except RenderError Bool} {action : Action}
      (h : action engine state = (.ok true, next)) (hrun : Run engine state made next)
      (hrest : Applies engine rest next more outcome final) :
      Applies engine (.custom action :: rest) state (made ++ more) outcome final
  | stopped {rest : List Fragment} {state final : Rendering} {made : Assignments}
      {outcome : Except RenderError Bool} {action : Action}
      (h : action engine state = (outcome, final)) (hrun : Run engine state made final)
      (hstop : outcome ≠ .ok true) :
      Applies engine (.custom action :: rest) state made outcome final

end

/-- An action that does nothing but what a run does, wherever it is started. -/
def Proper (engine : Engine) (action : Action) : Prop :=
  ∀ state : Rendering, ∃ made, Run engine state made (action engine state).2

end Rendering

namespace Fragment

mutual

/-- The actions of a tree that are its own. -/
def customs : Fragment → List Action
  | text _ => []
  | bind _ _ => []
  | mixed children => customsAll children
  | custom action => [action]

/-- The actions of several trees that are their own. -/
def customsAll : List Fragment → List Action
  | [] => []
  | child :: rest => customs child ++ customsAll rest

end

end Fragment

end DynamicSql

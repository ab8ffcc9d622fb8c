import DynamicSql.Rendering.Template

/-!
# Evaluators with a memory

The evaluator of an engine reads the bindings as they are when it starts, and its
assignments follow when it is done.  An interpreter may do more: it can assign while it
still reads, write to the objects, and remember from one text what it needs for the next.
A template is rendered with an interpreter as it is with an engine, and so an evaluator is
an interpreter that makes little use of its freedom.
-/

namespace DynamicSql

/-- What an interpreter works on: what it remembers, the objects, and the bindings. -/
structure Workspace (μ : Type) where
  memory : μ
  heap : Heap
  bindings : Bindings

/-- Evaluates texts, and may change all that it works on. -/
abbrev Interpreter (μ : Type) := String → Workspace μ → Except ExprError Value × Workspace μ

/-- An evaluator as an interpreter without a memory. -/
def Evaluator.interpreter (evaluator : Evaluator) : Interpreter Unit := fun text space =>
  let evaluated := evaluator space.heap (space.bindings.resolve space.heap) text
  (evaluated.outcome, { space with bindings := space.bindings.assign evaluated.assigned })

/-- A rendering, with what its interpreter remembers. -/
structure Session (μ : Type) where
  memory : μ
  rendering : Rendering

namespace Session

variable {μ : Type} (session : Session μ)

/-- The part of a session that an interpreter works on; the SQL text is not in it. -/
def workspace : Workspace μ :=
  ⟨session.memory, session.rendering.heap, session.rendering.context.bindings⟩

/-- The session after an interpreter has worked on its part of it. -/
def resume (space : Workspace μ) : Session μ :=
  ⟨space.memory, ⟨space.heap, { session.rendering.context with bindings := space.bindings }⟩⟩

/-- Append a fragment of SQL text. -/
def append (sql : String) : Session μ :=
  { session with rendering.context := session.rendering.context.append sql }

/-- Bind a name. -/
def bind (name : String) (value : Value) : Session μ :=
  { session with rendering.context := session.rendering.context.bind name value }

end Session

namespace TemplateNode

variable {μ : Type}

mutual

/-- Carry out a node. -/
def perform (interpreter : Interpreter μ) :
    TemplateNode → Session μ → Except ExprError Unit × Session μ
  | text sql, session => (.ok (), session.append sql)
  | bind name expression, session =>
    match interpreter expression session.workspace with
    | (.ok value, space) => (.ok (), (session.resume space).bind name value)
    | (.error error, space) => (.error error, session.resume space)
  | mixed children, session => performAll interpreter children session

/-- Carry out nodes in order, up to the first that fails. -/
def performAll (interpreter : Interpreter μ) :
    List TemplateNode → Session μ → Except ExprError Unit × Session μ
  | [], session => (.ok (), session)
  | node :: rest, session =>
    match perform interpreter node session with
    | (.ok (), session) => performAll interpreter rest session
    | (.error error, session) => (.error error, session)

end

/-- Render the nodes of a template with an interpreter. -/
def renderWith (interpreter : Interpreter μ) (memory : μ) (nodes : List TemplateNode)
    (engine : Engine) (heap : Heap) (parameter : Value) : Except ExprError BoundSql :=
  match performAll interpreter nodes ⟨memory, ⟨heap, .new engine heap parameter⟩⟩ with
  | (.ok (), session) => .ok session.rendering.context.finish
  | (.error error, _) => .error error

end TemplateNode

end DynamicSql

import DynamicSql.Heap.ToJson
import DynamicSql.Rendering.Bindings
import DynamicSql.Rendering.Engine

/-!
# Rendering contexts

A context collects SQL fragments and bindings.  The entries of a mapping given
as the parameter are bound at the start; another parameter that is not null
answers for names that are not bound.  Either way the parameter and the database
id have names of their own.
-/

namespace DynamicSql

/-- Why a rendering fails. -/
inductive RenderError
  | access (error : AccessError)
  | expr (error : ExprError)

/-- The words for an error. -/
def RenderError.message : RenderError → String
  | access error => error.message
  | expr error => error.message

/-- SQL text with the bindings visible at the end of a rendering. -/
structure BoundSql where
  sql : String
  bindings : Entries Value

/-- The JSON form of a bound statement; `none` if objects refer back to each other. -/
def BoundSql.toJson (bound : BoundSql) (heap : Heap) : Option (Except AccessError Json) :=
  (heap.toJson (.map bound.bindings)).map fun bindings =>
    bindings.map fun bindings => .object [("bindings", bindings), ("sql", .string bound.sql)]

/-- The state of a rendering. -/
structure Context where
  bindings : Bindings
  /-- The SQL fragments, first to last. -/
  fragments : List String
  /-- The next number of the counter. -/
  counter : Nat

namespace Context

/-- The bindings that a parameter starts with. -/
def parameterBindings (engine : Engine) (heap : Heap) (parameter : Value) : Bindings :=
  match parameter with
  | .map entries => ⟨Entries.ofList entries, none⟩
  | .null => .empty
  | other => ⟨[], some ⟨other, engine.coders.covers heap other⟩⟩

/-- A context for a parameter. -/
def new (engine : Engine) (heap : Heap) (parameter : Value) : Context where
  bindings := ((parameterBindings engine heap parameter).put parameterName parameter).put
    databaseIdName ((engine.settings.databaseId.map Value.string).getD .null)
  fragments := []
  counter := 0

variable (context : Context)

/-- Bind a name. -/
def bind (name : String) (value : Value) : Context :=
  { context with bindings := context.bindings.put name value }

/-- The value visible under a name. -/
def lookup (heap : Heap) (name : String) : Except RenderError Value :=
  (context.bindings.get heap name).mapError .access

/-- Append a fragment. -/
def append (fragment : String) : Context :=
  { context with fragments := context.fragments ++ [fragment] }

/-- Join fragments by single spaces and trim the result. -/
def joinFragments (fragments : List String) : String :=
  Text.trimmed (" ".intercalate fragments)

/-- The SQL text so far. -/
def sql : String := joinFragments context.fragments

/-- The next number, and the context afterwards. -/
def uniqueNumber : Nat × Context :=
  (context.counter, { context with counter := context.counter + 1 })

/-- Evaluate a text against the bindings. -/
def evaluate (engine : Engine) (heap : Heap) (text : String) :
    Except RenderError Value × Context :=
  let evaluated := engine.evaluator heap (context.bindings.resolve heap) text
  (evaluated.outcome.mapError .expr,
    { context with bindings := context.bindings.assign evaluated.assigned })

/-- Finish the rendering. -/
def finish : BoundSql := ⟨context.sql, context.bindings.entries⟩

/-- The diagnostic text. -/
def debugText (heap : Heap) : String :=
  Text.record "DynamicContext"
    [("bindings", context.bindings.debugText heap),
      ("sql", Text.bracketed (context.fragments.map Text.quoted)),
      ("unique_number", String.ofList (Text.natText context.counter))]

end Context

end DynamicSql

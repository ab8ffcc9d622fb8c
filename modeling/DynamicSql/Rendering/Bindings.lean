import DynamicSql.Expr.Eval
import DynamicSql.Navigation.Probe

/-!
# Bindings

Names bound during a rendering, in the order of their first binding.  A name
that is not bound may be a property of the parameter object; a parameter without
such a property and without a coder is itself the answer, so that a single
scalar can be referred to by any name.
-/

namespace DynamicSql

/-- The name under which the parameter itself is bound. -/
def parameterName : String := "_parameter"

/-- The name under which the database id is bound. -/
def databaseIdName : String := "_databaseId"

/-- The parameter object behind the bindings. -/
structure Fallback where
  parameter : Value
  hasCoder : Bool

/-- Names with their values, and what answers for other names. -/
structure Bindings where
  entries : Entries Value
  fallback : Option Fallback

namespace Bindings

/-- No bindings. -/
def empty : Bindings := ⟨[], none⟩

variable (bindings : Bindings)

/-- Bind a name, in place of an earlier binding. -/
def put (name : String) (value : Value) : Bindings :=
  { bindings with entries := bindings.entries.put name value }

/-- Make assignments in order. -/
def assign (assigned : Assignments) : Bindings :=
  assigned.foldl (fun bindings pair => bindings.put pair.1 pair.2) bindings

/-- The value visible under a name. -/
def get (heap : Heap) (name : String) : Except AccessError Value :=
  match bindings.entries.get? name with
  | some value => .ok value
  | none =>
    match bindings.fallback with
    | none => .ok .null
    | some fallback =>
      if !fallback.hasCoder && !Navigation.hasGetter heap fallback.parameter name then
        .ok fallback.parameter
      else Navigation.getPath heap fallback.parameter name

/-- The value of a name in an expression: a name that is not bound and has no
value may still be an entry of a mapping bound as the parameter. -/
def resolve (heap : Heap) : Lookup := fun name => do
  let value ← (bindings.get heap name).mapError .access
  if !value.isNull || bindings.entries.contains name then .ok value
  else
    match bindings.entries.get? parameterName with
    | some (.map parameter) => .ok ((Entries.get? parameter name).getD .null)
    | _ => .ok .null

/-- The diagnostic text. -/
def debugText (heap : Heap) : String :=
  Text.record "ContextMap"
    [("entries", heap.debugText (.map bindings.entries)),
      ("fallback", Text.optional <| bindings.fallback.map fun fallback =>
        Text.record "ParameterFallback"
          [("meta", Navigation.debugText heap fallback.parameter),
            ("has_coder", Text.boolText fallback.hasCoder)])]

end Bindings

end DynamicSql

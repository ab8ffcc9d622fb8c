import DynamicSql.Expr.Eval
import DynamicSql.Property.TableCache
import DynamicSql.Rendering.Coders
import DynamicSql.Rendering.Settings

/-!
# Engines

What every rendering shares: the settings, the coders and the evaluator.
-/

namespace DynamicSql

/-- Settings with coders and an evaluator. -/
structure Engine where
  settings : Settings
  coders : Coders
  evaluator : Evaluator

namespace Engine

/-- An engine without coders that evaluates the expression language. -/
def new (settings : Settings) : Engine := ⟨settings, [], .reference⟩

/-- The table cache that the settings ask for. -/
def tableCache (engine : Engine) : TableCache := .new engine.settings.classCacheEnabled

/-- The diagnostic text of an engine that has built no table yet. -/
def debugText (engine : Engine) : String :=
  "Configuration \x7b config: " ++ engine.settings.debugText ++ ", reflectors: " ++
    engine.tableCache.debugText ++ ", coders: " ++ engine.coders.debugText ++ ", .. \x7d"

end Engine

end DynamicSql

import DynamicSql.Rendering.Interpreter

/-!
# The SQL text of a template

Bind nodes evaluate what they like against the parameter, but only text nodes write SQL,
and they write their own text.  So the SQL text is the same in all renderings of a
template that succeed: it does not depend on the parameter, nor on anything else that a
rendering is given.

* `fragments_of_perform` says what one node adds to the fragments, whatever an interpreter
  does, and `fragments_of_performAll` what several nodes add.
* `apply_fragment` and `render_eq_renderWith` say that an engine renders as the
  interpreter that its evaluator is.
* `render_sql` compares two renderings.
-/

namespace DynamicSql

namespace TemplateNode

/-! ## What a node adds -/

section Fragments

variable {μ : Type} {interpreter : Interpreter μ}

mutual

/-- A node that is carried out adds the texts of its leaves, and no others. -/
theorem fragments_of_perform : ∀ {node : TemplateNode} {session after : Session μ},
    perform interpreter node session = (.ok (), after) →
    after.rendering.context.fragments = session.rendering.context.fragments ++ texts node
  | .text sql, session, after, h => by
    cases h
    rfl
  | .bind name expression, session, after, h => by
    rw [perform] at h
    -- whatever the interpreter has done to its workspace, the fragments are not in it
    split at h
    · cases h
      exact (List.append_nil _).symm
    · cases h
  | .mixed children, session, after, h => by
    rw [perform] at h
    exact fragments_of_performAll h

theorem fragments_of_performAll : ∀ {nodes : List TemplateNode} {session after : Session μ},
    performAll interpreter nodes session = (.ok (), after) →
    after.rendering.context.fragments = session.rendering.context.fragments ++ allTexts nodes
  | [], session, after, h => by
    cases h
    exact (List.append_nil _).symm
  | node :: rest, session, after, h => by
    rw [performAll] at h
    split at h
    · rename_i next hnode
      have hfirst := fragments_of_perform hnode
      have hrest := fragments_of_performAll h
      rw [hrest, hfirst, allTexts, List.append_assoc]
    · cases h

end

/-- The SQL text of a rendering is that of the text leaves. -/
theorem sql_of_renderWith {memory : μ} {nodes : List TemplateNode} {engine : Engine}
    {heap : Heap} {parameter : Value} {bound : BoundSql}
    (h : renderWith interpreter memory nodes engine heap parameter = .ok bound) :
    bound.sql = Text.trimmed (" ".intercalate (allTexts nodes)) := by
  unfold renderWith at h
  split at h
  · rename_i session hperformed
    cases h
    have hfragments := fragments_of_performAll hperformed
    show Context.joinFragments session.rendering.context.fragments = _
    rw [hfragments]
    rfl
  · cases h

end Fragments

/-! ## Engines as interpreters -/

/-- The outcome of carrying out nodes, as the outcome of applying fragments. -/
def applied (performed : Except ExprError Unit × Session Unit) :
    Except RenderError Bool × Rendering :=
  ((performed.1.map fun _ => true).mapError .expr, performed.2.rendering)

mutual

/-- Applying the fragment of a node is carrying out the node with the engine's evaluator. -/
theorem apply_fragment (engine : Engine) : ∀ (node : TemplateNode) (state : Rendering),
    (fragment node).apply engine state =
      applied (perform engine.evaluator.interpreter node ⟨(), state⟩)
  | .text sql, state => rfl
  | .bind name expression, state => by
    show Action.bind name expression engine state = _
    unfold Action.bind Context.evaluate perform Evaluator.interpreter
    simp only [Session.workspace]
    cases (engine.evaluator state.heap (state.context.bindings.resolve state.heap)
      expression).outcome with
    | ok value => rfl
    | error error => rfl
  | .mixed children, state => apply_fragments engine children state

theorem apply_fragments (engine : Engine) : ∀ (nodes : List TemplateNode) (state : Rendering),
    Fragment.applyAll (fragments nodes) engine state =
      applied (performAll engine.evaluator.interpreter nodes ⟨(), state⟩)
  | [], state => rfl
  | node :: rest, state => by
    have hnode := apply_fragment engine node state
    show (fragment node).apply.andThen (Fragment.applyAll (fragments rest)) engine state = _
    unfold Action.andThen
    rw [hnode, performAll]
    rcases perform engine.evaluator.interpreter node ⟨(), state⟩ with ⟨error | done, next⟩
    · rfl
    · exact apply_fragments engine rest next.rendering

end

/-- An engine renders as its evaluator does when it is taken for an interpreter. -/
theorem render_eq_renderWith (nodes : List TemplateNode) (engine : Engine) (heap : Heap)
    (parameter : Value) :
    render nodes engine heap parameter =
      (renderWith engine.evaluator.interpreter () nodes engine heap parameter).mapError .expr := by
  have happly : (Fragment.mixed (fragments nodes)).apply engine
      ⟨heap, .new engine heap parameter⟩ = applied (performAll engine.evaluator.interpreter nodes
        ⟨(), ⟨heap, .new engine heap parameter⟩⟩) := apply_fragments engine nodes _
  unfold render Fragment.render renderWith
  rw [happly]
  rcases performAll engine.evaluator.interpreter nodes
    ⟨(), ⟨heap, .new engine heap parameter⟩⟩ with ⟨_ | _, session⟩
  · rfl
  · rfl

/-! ## Two renderings -/

/-- **The SQL text is that of the template.**  Two renderings of a template that succeed
have the same SQL text, whatever their engines, objects and parameters are, and it is the
texts of the leaves in document order, joined by single spaces and trimmed.  The same holds
of any two interpreters. -/
theorem render_sql (nodes : List TemplateNode) :
    (∀ (engine₁ engine₂ : Engine) (heap₁ heap₂ : Heap) (parameter₁ parameter₂ : Value)
      (bound₁ bound₂ : BoundSql),
      render nodes engine₁ heap₁ parameter₁ = .ok bound₁ →
      render nodes engine₂ heap₂ parameter₂ = .ok bound₂ →
      bound₁.sql = bound₂.sql ∧
        bound₁.sql = Text.trimmed (" ".intercalate (allTexts nodes)) ∧
        bound₂.sql = Text.trimmed (" ".intercalate (allTexts nodes))) ∧
    (∀ (μ₁ μ₂ : Type) (interpreter₁ : Interpreter μ₁) (interpreter₂ : Interpreter μ₂)
      (memory₁ : μ₁) (memory₂ : μ₂) (engine₁ engine₂ : Engine) (heap₁ heap₂ : Heap)
      (parameter₁ parameter₂ : Value) (bound₁ bound₂ : BoundSql),
      renderWith interpreter₁ memory₁ nodes engine₁ heap₁ parameter₁ = .ok bound₁ →
      renderWith interpreter₂ memory₂ nodes engine₂ heap₂ parameter₂ = .ok bound₂ →
      bound₁.sql = bound₂.sql ∧
        bound₁.sql = Text.trimmed (" ".intercalate (allTexts nodes))) := by
  have hengine : ∀ {engine : Engine} {heap : Heap} {parameter : Value} {bound : BoundSql},
      render nodes engine heap parameter = .ok bound →
      bound.sql = Text.trimmed (" ".intercalate (allTexts nodes)) := by
    intro engine heap parameter bound h
    rw [render_eq_renderWith] at h
    cases hrendered : renderWith engine.evaluator.interpreter () nodes engine heap parameter with
    | error error =>
      rw [hrendered] at h
      cases h
    | ok found =>
      rw [hrendered] at h
      cases h
      exact sql_of_renderWith hrendered
  constructor
  · intro engine₁ engine₂ heap₁ heap₂ parameter₁ parameter₂ bound₁ bound₂ h₁ h₂
    have hsql₁ := hengine h₁
    have hsql₂ := hengine h₂
    exact ⟨hsql₁.trans hsql₂.symm, hsql₁, hsql₂⟩
  · intro μ₁ μ₂ interpreter₁ interpreter₂ memory₁ memory₂ engine₁ engine₂ heap₁ heap₂
      parameter₁ parameter₂ bound₁ bound₂ h₁ h₂
    have hsql₁ := sql_of_renderWith h₁
    have hsql₂ := sql_of_renderWith h₂
    exact ⟨hsql₁.trans hsql₂.symm, hsql₁⟩

/-- A template that looks for an author whose name is bound first. -/
def authors : List TemplateNode :=
  [.bind "wanted" "name", .text " SELECT *", .mixed [.text "FROM author", .mixed [],
    .bind "unused" "wanted", .text "WHERE name = ? "]]

/-- An engine with a database id and an evaluator of its own, which binds the text that it
evaluates. -/
def echo : Engine where
  settings := { Settings.default with databaseId := some "h2" }
  coders := []
  evaluator := fun _ _ text => ⟨.ok (.integer 1), [("seen", .string text)]⟩

/-- An interpreter that removes all bindings and counts the texts. -/
def counting : Interpreter Nat := fun _ space =>
  (.ok (.string "; DROP TABLE author"), ⟨space.memory + 1, .empty, .empty⟩)

/-- A hostile name, another evaluator and a hostile interpreter: the statement is the same. -/
theorem render_sql_authors : ∃ named echoed counted : BoundSql,
    render authors (.new .default) .empty
      (.map [("name", .string "x; DROP TABLE author")]) = .ok named ∧
    render authors echo .empty (.integer 7) = .ok echoed ∧
    renderWith counting 0 authors echo .empty (.integer 7) = .ok counted ∧
    named.bindings.get? "wanted" = some (.string "x; DROP TABLE author") ∧
    named.sql = "SELECT * FROM author WHERE name = ?" ∧
    echoed.sql = "SELECT * FROM author WHERE name = ?" ∧
    counted.sql = "SELECT * FROM author WHERE name = ?" := by
  obtain ⟨named, hnamed, hwanted⟩ : ∃ named, render authors (.new .default) .empty
      (.map [("name", .string "x; DROP TABLE author")]) = .ok named ∧
      named.bindings.get? "wanted" = some (.string "x; DROP TABLE author") := ⟨_, rfl, rfl⟩
  obtain ⟨echoed, hechoed⟩ : ∃ echoed, render authors echo .empty (.integer 7) = .ok echoed :=
    ⟨_, rfl⟩
  obtain ⟨counted, hcounted⟩ : ∃ counted,
      renderWith counting 0 authors echo .empty (.integer 7) = .ok counted := ⟨_, rfl⟩
  have htext : Text.trimmed (" ".intercalate (allTexts authors)) =
      "SELECT * FROM author WHERE name = ?" := by decide
  obtain ⟨-, hnamedText, hechoedText⟩ :=
    (render_sql authors).1 _ _ _ _ _ _ named echoed hnamed hechoed
  obtain ⟨-, hcountedText⟩ :=
    (render_sql authors).2 _ _ _ _ _ _ _ _ _ _ _ _ counted counted hcounted hcounted
  rw [htext] at hnamedText hechoedText hcountedText
  exact ⟨named, echoed, counted, hnamed, hechoed, hcounted, hwanted, hnamedText, hechoedText,
    hcountedText⟩

end TemplateNode

end DynamicSql

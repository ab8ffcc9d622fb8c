import DynamicSql.Proofs.Rendering.Fragments
import DynamicSql.Rendering.Run

/-!
# Expressions and look-ups along a run

A name in an expression may be an entry of a mapping bound as the parameter, a direct
look-up never is.  The difference does not show as long as the parameter's own name is
left alone: a mapping given as the parameter has its entries bound from the start, and
what is bound stays bound.
-/

namespace DynamicSql

/-! ## What a run does to the bindings -/

theorem Bindings.assign_append (bindings : Bindings) (made more : Assignments) :
    bindings.assign (made ++ more) = (bindings.assign made).assign more :=
  List.foldl_append

theorem Context.bindings_of_evaluate {context after : Context} {engine : Engine} {heap : Heap}
    {text : String} {outcome : Except RenderError Value}
    (h : context.evaluate engine heap text = (outcome, after)) :
    after.bindings = context.bindings.assign (context.assigned engine heap text) := by
  have hafter : (context.evaluate engine heap text).2 = after := congrArg Prod.snd h
  rw [← hafter]
  rfl

namespace Rendering

mutual

/-- A run gives the names the values that go with it, and does nothing else to the
bindings. -/
theorem Run.bindings_eq {engine : Engine} {start final : Rendering} {made : Assignments} :
    Run engine start made final →
      final.context.bindings = start.context.bindings.assign made
  | .start _ => rfl
  | .bind h _ _ => by
    rw [Bindings.assign_append, ← h.bindings_eq]
    rfl
  | .append h _ => h.bindings_eq
  | .number h => h.bindings_eq
  | .objects h _ => h.bindings_eq
  | .evaluate h _ => by
    rw [Bindings.assign_append, ← h.bindings_eq]
    rfl
  | .apply h hfragment => by
    rw [Bindings.assign_append, ← h.bindings_eq, hfragment.bindings_eq]

theorem Applies.bindings_eq {engine : Engine} {fragments : List Fragment}
    {state final : Rendering} {made : Assignments} {outcome : Except RenderError Bool} :
    Applies engine fragments state made outcome final →
      final.context.bindings = state.context.bindings.assign made
  | .done _ => rfl
  | .text hrest => hrest.bindings_eq
  | .bind h hrest => by
    rw [Bindings.assign_append, hrest.bindings_eq, ← Context.bindings_of_evaluate h]
    rfl
  | .failed h => Context.bindings_of_evaluate h
  | .mixed h => h.bindings_eq
  | .custom _ hrun hrest => by
    rw [Bindings.assign_append, ← hrun.bindings_eq, hrest.bindings_eq]
  | .stopped _ hrun _ => hrun.bindings_eq

end

/-! ## Applying a tree -/

/-- Fragments that are applied do what applying them does. -/
theorem Applies.applyAll_eq {engine : Engine} {fragments : List Fragment}
    {state final : Rendering} {made : Assignments} {outcome : Except RenderError Bool} :
    Applies engine fragments state made outcome final →
      Fragment.applyAll fragments engine state = (outcome, final)
  | .done _ => rfl
  | .text hrest => hrest.applyAll_eq
  | .bind h hrest => by
    refine (Action.andThen_of_applied ?_ _).trans hrest.applyAll_eq
    show Action.bind _ _ engine state = _
    unfold Action.bind
    rw [h]
  | .failed h => by
    refine Action.andThen_of_stopped ?_ (by simp) _
    show Action.bind _ _ engine state = _
    unfold Action.bind
    rw [h]
  | .mixed h => by
    rw [← h.applyAll_eq, Fragment.applyAll_eq_sequence, Fragment.applyAll_eq_sequence,
      Fragment.leavesAll_append]
    rfl
  | .custom h _ hrest => (Action.andThen_of_applied h _).trans hrest.applyAll_eq
  | .stopped h _ hstop => Action.andThen_of_stopped h hstop _

section Total

variable {engine : Engine}

mutual

/-- A tree whose own actions are proper applies somehow at every state, if what comes
behind it does. -/
theorem exists_applies_cons : ∀ (fragment : Fragment) (rest : List Fragment),
    (∀ action ∈ fragment.customs, Proper engine action) →
    (∀ state, ∃ made outcome final, Applies engine rest state made outcome final) →
      ∀ state, ∃ made outcome final, Applies engine (fragment :: rest) state made outcome final
  | .text sql, rest, _, hrest, state => by
    obtain ⟨made, outcome, final, h⟩ := hrest { state with context := state.context.append sql }
    exact ⟨made, outcome, final, .text h⟩
  | .bind name expression, rest, _, hrest, state => by
    rcases h : state.context.evaluate engine state.heap expression with ⟨_ | value, context⟩
    · exact ⟨_, _, _, .failed h⟩
    · obtain ⟨made, outcome, final, hfinal⟩ :=
        hrest { state with context := context.bind name value }
      exact ⟨_, outcome, final, .bind h hfinal⟩
  | .mixed children, rest, hproper, hrest, state => by
    obtain ⟨made, outcome, final, h⟩ := exists_applies_append children rest hproper hrest state
    exact ⟨made, outcome, final, .mixed h⟩
  | .custom action, rest, hproper, hrest, state => by
    obtain ⟨made, hrun⟩ := hproper action List.mem_cons_self state
    rcases Action.applied_or_stopped action engine state with
      ⟨next, h⟩ | ⟨outcome, final, h, hstop⟩ <;> rw [h] at hrun
    · obtain ⟨more, outcome, final, hfinal⟩ := hrest next
      exact ⟨_, outcome, final, .custom h hrun hfinal⟩
    · exact ⟨made, outcome, final, .stopped h hrun hstop⟩

theorem exists_applies_append : ∀ fragments rest : List Fragment,
    (∀ action ∈ Fragment.customsAll fragments, Proper engine action) →
    (∀ state, ∃ made outcome final, Applies engine rest state made outcome final) →
      ∀ state, ∃ made outcome final, Applies engine (fragments ++ rest) state made outcome final
  | [], _, _, hrest, state => hrest state
  | fragment :: fragments, rest, hproper, hrest, state =>
    exists_applies_cons fragment (fragments ++ rest)
      (fun action h => hproper action (List.mem_append_left _ h))
      (exists_applies_append fragments rest
        (fun action h => hproper action (List.mem_append_right _ h)) hrest) state

end

/-- Applying a tree whose own actions are proper continues a run, whether it applies,
refuses or fails. -/
theorem Run.exists_apply {start state : Rendering} {made : Assignments}
    (h : Run engine start made state) (fragment : Fragment)
    (hproper : ∀ action ∈ fragment.customs, Proper engine action) :
    ∃ more, Run engine start (made ++ more) (fragment.apply engine state).2 := by
  obtain ⟨more, outcome, final, hfragment⟩ :=
    exists_applies_cons fragment [] hproper (fun state => ⟨_, _, _, .done state⟩) state
  have hfinal : (fragment.apply engine state).2 = final := by
    have hall : (fragment.apply.andThen .done) engine state = (outcome, final) :=
      hfragment.applyAll_eq
    rw [Action.andThen_done] at hall
    rw [hall]
  exact ⟨more, hfinal ▸ h.apply hfragment⟩

end Total

end Rendering

/-! ## The names that a parameter binds -/

/-- The parameter is bound under its name, and if it is a mapping then so is every name
that it has an entry for. -/
structure Bindings.Covers (parameter : Value) (bindings : Bindings) : Prop where
  parameter_bound : bindings.entries.get? parameterName = some parameter
  entries_bound : ∀ entries, parameter = .map entries →
    ∀ name ∈ Entries.keys entries, name ∈ bindings.entries.keys

namespace Bindings.Covers

variable {parameter : Value} {bindings : Bindings}

theorem put (h : bindings.Covers parameter) {name : String} (hname : name ≠ parameterName)
    (value : Value) : (bindings.put name value).Covers parameter where
  parameter_bound := by
    rw [← h.parameter_bound]
    exact Entries.get?_put_of_ne _ _ hname.symm
  entries_bound entries hentries other hother :=
    Entries.mem_keys_put.2 (.inr (h.entries_bound entries hentries other hother))

theorem assign (h : bindings.Covers parameter) {made : Assignments}
    (hmade : parameterName ∉ Entries.keys made) : (bindings.assign made).Covers parameter := by
  induction made generalizing bindings with
  | nil => exact h
  | cons pair rest ih =>
    obtain ⟨hpair, hrest⟩ := not_or.1 (mt List.mem_cons.2 hmade)
    exact ih (h.put (Ne.symm hpair) pair.2) hrest

theorem new (engine : Engine) (heap : Heap) (parameter : Value) :
    (Context.new engine heap parameter).bindings.Covers parameter := by
  refine put ⟨Entries.get?_put_self _ _ _, ?_⟩ (by decide) _
  rintro entries rfl name hname
  exact Entries.mem_keys_put.2 (.inr (Entries.mem_keys_ofList.2 hname))

/-- No entry of a mapping given as the parameter shows through the bindings: an
expression finds under a name what a direct look-up finds. -/
theorem resolve_eq (h : bindings.Covers parameter) (heap : Heap) (name : String) :
    bindings.resolve heap name = (bindings.get heap name).mapError .access := by
  unfold resolve
  rcases bindings.get heap name with error | value
  · rfl
  · show (if _ then _ else _) = Except.ok value
    split
    · rfl
    · rename_i hunbound
      obtain ⟨rfl, hname⟩ : value = .null ∧ bindings.entries.get? name = none := by
        rw [← Value.isNull_iff]
        simpa [Entries.contains] using hunbound
      rw [h.parameter_bound]
      split
      · rename_i entries hentries
        have hentry : Entries.get? entries name = none := by
          rw [← Option.not_isSome_iff_eq_none, ← Entries.mem_keys_iff]
          intro hmem
          have hbound := h.entries_bound entries (Option.some.inj hentries) name hmem
          rw [Entries.mem_keys_iff, hname] at hbound
          cases hbound
        rw [hentry]
        rfl
      · rfl

end Bindings.Covers

namespace Context

/-- **Expressions and direct look-ups agree.**  Whatever is bound, appended, numbered,
evaluated, applied or written to objects from the start of a rendering on, as long as the
parameter's own name is not given a value: under every name an expression and a direct
look-up find the same value, or fail with the same error. -/
theorem resolve_eq_lookup (engine : Engine) (heap : Heap) (parameter : Value)
    (made : Assignments) (state : Rendering)
    (hrun : Rendering.Run engine ⟨heap, .new engine heap parameter⟩ made state)
    (hmade : parameterName ∉ Entries.keys made) (name : String) :
    ∃ outcome : Except AccessError Value,
      state.context.bindings.resolve state.heap name = outcome.mapError .access ∧
      state.context.lookup state.heap name = outcome.mapError .access := by
  have hcovers : state.context.bindings.Covers parameter := by
    rw [hrun.bindings_eq]
    exact (Bindings.Covers.new engine heap parameter).assign hmade
  exact ⟨_, hcovers.resolve_eq state.heap name, rfl⟩

/-- Binds a name and refuses. -/
def bindAndRefuse : Action := fun _ state =>
  (.ok false, { state with context := state.context.bind "inner" .null })

/-- A tree that refuses in the middle: the last text is not reached. -/
def refusing : Fragment :=
  .mixed [.text "where", .bind "total" "n + 1", .mixed [.custom bindAndRefuse], .text "end"]

/-- A context with a mapping as the parameter. -/
def counted : Context := .new (.new .default) .empty (.map [("n", .integer 1)])

/-- A tree that refuses and then an evaluation that fails: what the tree has bound up to
there is found either way. -/
theorem resolve_eq_lookup_refusing : ∃ (made : Assignments) (state : Rendering),
    Rendering.Run (.new .default) ⟨.empty, counted⟩ made state ∧
    parameterName ∉ Entries.keys made ∧ state.context.sql = "where" ∧
    state.context.lookup state.heap "total" = .ok (.integer 2) ∧
    ∀ name, ∃ outcome : Except AccessError Value,
      state.context.bindings.resolve state.heap name = outcome.mapError .access ∧
      state.context.lookup state.heap name = outcome.mapError .access := by
  have hsum : (counted.append "where").evaluate (.new .default) .empty "n + 1" =
      (.ok (.integer 2), counted.append "where") := rfl
  have hinner (state : Rendering) : Rendering.Run (.new .default) state [("inner", .null)]
      { state with context := state.context.bind "inner" .null } :=
    (Rendering.Run.start state).bind "inner" .null
  have happlied : Rendering.Applies (.new .default) [refusing] ⟨.empty, counted⟩
      [("total", .integer 2), ("inner", .null)] (.ok false) _ :=
    .mixed (.text (.bind hsum (.mixed (.stopped rfl (hinner _) nofun))))
  have hfailed : Rendering.Run (.new .default) ⟨.empty, counted⟩
      [("total", .integer 2), ("inner", .null)] _ :=
    ((Rendering.Run.start _).apply happlied).evaluate "n / 0"
  have hmade : parameterName ∉ Entries.keys [("total", .integer 2), ("inner", Value.null)] := by
    decide
  exact ⟨_, _, hfailed, hmade, rfl, rfl, resolve_eq_lookup _ _ _ _ _ hfailed hmade⟩

end Context

end DynamicSql

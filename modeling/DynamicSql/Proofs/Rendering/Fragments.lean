import DynamicSql.Rendering.Template

/-!
# Fragment trees and their leaves

Grouping means nothing: applying a tree is running its leaves from left to right, up
to the first that refuses or fails.
-/

namespace DynamicSql

namespace Action

/-- Running actions from left to right: all of them apply, or the first that refuses or
fails gives the outcome, with what the ones before it and it itself have done. -/
inductive Runs (engine : Engine) :
    List Action → Rendering → Except RenderError Bool → Rendering → Prop
  | done (state : Rendering) : Runs engine [] state (.ok true) state
  | step {action : Action} {rest : List Action} {state next final : Rendering}
      {outcome : Except RenderError Bool} (h : action engine state = (.ok true, next))
      (hrest : Runs engine rest next outcome final) :
      Runs engine (action :: rest) state outcome final
  | stop {action : Action} {rest : List Action} {state final : Rendering}
      {outcome : Except RenderError Bool} (h : action engine state = (outcome, final))
      (hstop : outcome ≠ .ok true) : Runs engine (action :: rest) state outcome final

variable {engine : Engine} {state next final : Rendering} {outcome : Except RenderError Bool}

/-! ## One action after the other -/

theorem applied_or_stopped (action : Action) (engine : Engine) (state : Rendering) :
    (∃ next, action engine state = (.ok true, next)) ∨
      ∃ outcome final, action engine state = (outcome, final) ∧ outcome ≠ .ok true := by
  rcases h : action engine state with ⟨outcome, final⟩
  by_cases hstop : outcome = .ok true
  · exact .inl ⟨final, by rw [hstop]⟩
  · exact .inr ⟨outcome, final, rfl, hstop⟩

theorem andThen_of_applied {first : Action} (h : first engine state = (.ok true, next))
    (second : Action) : first.andThen second engine state = second engine next := by
  unfold andThen
  rw [h]

theorem andThen_of_stopped {first : Action} (h : first engine state = (outcome, final))
    (hstop : outcome ≠ .ok true) (second : Action) :
    first.andThen second engine state = (outcome, final) := by
  unfold andThen
  rw [h]
  split
  · rename_i heq
    cases heq
    exact absurd rfl hstop
  · rfl

theorem andThen_done (action : Action) : action.andThen done = action := by
  funext engine state
  rcases applied_or_stopped action engine state with ⟨next, h⟩ | ⟨outcome, final, h, hstop⟩
  · rw [andThen_of_applied h, h]
    rfl
  · rw [andThen_of_stopped h hstop, h]

theorem andThen_assoc (first second third : Action) :
    (first.andThen second).andThen third = first.andThen (second.andThen third) := by
  funext engine state
  rcases applied_or_stopped first engine state with ⟨next, h⟩ | ⟨outcome, final, h, hstop⟩
  · have hsecond : first.andThen second engine state = second engine next := andThen_of_applied h _
    rw [andThen_of_applied h]
    unfold andThen at hsecond ⊢
    rw [hsecond]
  · have hsecond : first.andThen second engine state = (outcome, final) :=
      andThen_of_stopped h hstop _
    rw [andThen_of_stopped h hstop, andThen_of_stopped hsecond hstop]

/-! ## Sequences -/

theorem sequence_append (actions more : List Action) :
    sequence (actions ++ more) = (sequence actions).andThen (sequence more) := by
  induction actions with
  | nil => rfl
  | cons action rest ih =>
    show action.andThen (sequence (rest ++ more)) = _
    rw [ih, ← andThen_assoc]
    rfl

/-- A sequence does what running its actions does. -/
theorem runs_iff {actions : List Action} :
    Runs engine actions state outcome final ↔
      sequence actions engine state = (outcome, final) := by
  constructor
  · intro h
    induction h with
    | done state => rfl
    | step h _ ih => exact (andThen_of_applied h _).trans ih
    | stop h hstop => exact andThen_of_stopped h hstop _
  · intro h
    induction actions generalizing state with
    | nil =>
      cases h
      exact .done _
    | cons action rest ih =>
      change action.andThen (sequence rest) engine state = _ at h
      rcases applied_or_stopped action engine state with
        ⟨next, hnext⟩ | ⟨result, last, hlast, hstop⟩
      · rw [andThen_of_applied hnext] at h
        exact .step hnext (ih h)
      · rw [andThen_of_stopped hlast hstop] at h
        cases h
        exact .stop hlast hstop

/-- What comes behind a stop is not run. -/
theorem Runs.append {actions : List Action} (h : Runs engine actions state outcome final)
    (hstop : outcome ≠ .ok true) (more : List Action) :
    Runs engine (actions ++ more) state outcome final := by
  induction h with
  | done state => exact absurd rfl hstop
  | step h _ ih => exact .step h (ih hstop)
  | stop h hne => exact .stop h hne

end Action

namespace Fragment

open DynamicSql.Action (Runs sequence sequence_append andThen_done)

mutual

/-- A fragment does what its leaves do one after the other. -/
theorem apply_eq_sequence : ∀ fragment : Fragment, fragment.apply = sequence fragment.leaves
  | .text _ => (andThen_done _).symm
  | .bind _ _ => (andThen_done _).symm
  | .mixed children => applyAll_eq_sequence children
  | .custom _ => (andThen_done _).symm

theorem applyAll_eq_sequence :
    ∀ children : List Fragment, applyAll children = sequence (leavesAll children)
  | [] => rfl
  | child :: rest => by
    rw [applyAll, leavesAll, sequence_append, apply_eq_sequence child, applyAll_eq_sequence rest]

end

/-- **Applying a tree is running its leaves.**  The outcome and what is left are those of
running the leaves from left to right, up to the first that refuses or fails.  So trees
with the same leaves do the same, however these are grouped, and so do trees with the
same leaves up to the one that stops. -/
theorem apply_eq_runs (fragment : Fragment) (engine : Engine) (state final : Rendering)
    (outcome : Except RenderError Bool) :
    (fragment.apply engine state = (outcome, final) ↔
      Runs engine fragment.leaves state outcome final) ∧
    (∀ other : Fragment, other.leaves = fragment.leaves → other.apply = fragment.apply) ∧
    (∀ (run rest : List Action), fragment.leaves = run ++ rest →
      Runs engine run state outcome final → outcome ≠ .ok true →
        fragment.apply engine state = (outcome, final)) := by
  have hruns : fragment.apply engine state = (outcome, final) ↔
      Runs engine fragment.leaves state outcome final := by
    rw [apply_eq_sequence, Action.runs_iff]
  refine ⟨hruns, ?_, ?_⟩
  · intro other hleaves
    rw [apply_eq_sequence, apply_eq_sequence, hleaves]
  · intro run rest hleaves hrun hstop
    rw [hruns, hleaves]
    exact hrun.append hstop rest

theorem leavesAll_append (children more : List Fragment) :
    leavesAll (children ++ more) = leavesAll children ++ leavesAll more := by
  induction children with
  | nil => rfl
  | cons child rest ih => simp [leavesAll, ih]

end Fragment

namespace TemplateNode

theorem fragments_append (nodes more : List TemplateNode) :
    fragments (nodes ++ more) = fragments nodes ++ fragments more := by
  induction nodes with
  | nil => rfl
  | cons node rest ih => simp [fragments, ih]

/-- A template renders the same without the bounds of a group. -/
theorem render_group (before group after : List TemplateNode) :
    render (before ++ .mixed group :: after) = render (before ++ group ++ after) := by
  have hleaves : Fragment.leavesAll (fragments (before ++ .mixed group :: after)) =
      Fragment.leavesAll (fragments (before ++ group ++ after)) := by
    simp [fragments_append, Fragment.leavesAll_append, fragments, fragment, Fragment.leavesAll,
      Fragment.leaves]
  have happly : (Fragment.mixed (fragments (before ++ .mixed group :: after))).apply =
      (Fragment.mixed (fragments (before ++ group ++ after))).apply := by
    rw [Fragment.apply_eq_sequence, Fragment.apply_eq_sequence, Fragment.leaves, Fragment.leaves,
      hleaves]
  funext engine heap parameter
  unfold render Fragment.render
  rw [happly]

end TemplateNode

end DynamicSql

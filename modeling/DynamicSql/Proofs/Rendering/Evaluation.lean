import DynamicSql.Proofs.Expr.Acceptance
import DynamicSql.Rendering.InPlace

/-!
# What an evaluation does to the bindings

Evaluating in place comes to the same as finding the value first and binding it
afterwards: only the root of a statement assigns, and it assigns a value that is
already there.  So an evaluation binds one name or none, and none if it fails.
-/

namespace DynamicSql

/-! ## Effects that only read -/

namespace Effect

variable {α β : Type}

theorem bind_apply (x : Effect α) (f : α → Effect β) (bindings : Bindings) :
    (x >>= f) bindings =
      match x bindings with
      | (.ok a, after) => f a after
      | (.error error, after) => (.error error, after) := by
  show (ExceptT.bind x f) bindings = _
  simp only [ExceptT.bind, ExceptT.mk, ExceptT.bindCont, bind, StateT.bind]
  rcases x bindings with ⟨_ | a, after⟩ <;> rfl

/-- Whether an effect leaves all bindings as they are and comes to the given outcome. -/
def Reads (x : Effect α) (outcome : Bindings → Except ExprError α) : Prop :=
  ∀ bindings, x bindings = (outcome bindings, bindings)

namespace Reads

theorem pure (a : α) : Reads (pure a) fun _ => .ok a := fun _ => rfl

theorem ofExcept (outcome : Except ExprError α) : Reads (ofExcept outcome) fun _ => outcome := by
  intro bindings
  cases outcome <;> rfl

theorem resolve (heap : Heap) (name : String) :
    Reads (Effect.resolve heap name) fun bindings => bindings.resolve heap name :=
  fun bindings => Reads.ofExcept (bindings.resolve heap name) bindings

/-- Reading on after reading is reading. -/
theorem bind {x : Effect α} {f : α → Effect β} {outcome : Bindings → Except ExprError α}
    {next : α → Bindings → Except ExprError β} (hx : Reads x outcome)
    (hf : ∀ a, Reads (f a) (next a)) :
    Reads (x >>= f) fun bindings => outcome bindings >>= fun a => next a bindings := by
  intro bindings
  simp only [bind_apply, hx bindings]
  cases outcome bindings with
  | error error => rfl
  | ok a => exact hf a bindings

end Reads

end Effect

open Effect (Reads)

/-- **An expression only reads the bindings**, also where it fails or stops early. -/
theorem Expr.reads_run_tree (heap : Heap) (e : Expr) :
    Reads (e.tree.run heap) fun bindings => e.eval heap (bindings.resolve heap) := by
  induction e with
  | literal value => exact .pure value
  | ident name => exact .resolve heap name
  | property base name ih => exact ih.bind fun _ => .ofExcept _
  | index base position ihb ihp => exact ihb.bind fun _ => ihp.bind fun _ => .ofExcept _
  | unary op operand ih => exact ih.bind fun _ => .ofExcept _
  | binary op left right ihl ihr =>
    cases op with
    | and =>
      refine ihl.bind fun value => ?_
      -- the right side is not looked at where the left one decides
      cases value.isTruthy with
      | false => exact .pure _
      | true => exact ihr.bind fun _ => .pure _
    | or =>
      refine ihl.bind fun value => ?_
      cases value.isTruthy with
      | false => exact ihr.bind fun _ => .pure _
      | true => exact .pure _
    | _ => exact ihl.bind fun _ => ihr.bind fun _ => .ofExcept _

namespace Statement

/-- A statement that is run in place has the outcome of its evaluation and leaves the
bindings with its assignments. -/
theorem run_tree (heap : Heap) (bindings : Bindings) (statement : Statement) :
    statement.tree.run heap bindings =
      ((statement.eval heap (bindings.resolve heap)).outcome,
        bindings.assign (statement.eval heap (bindings.resolve heap)).assigned) := by
  cases statement with
  | expr e => exact e.reads_run_tree heap bindings
  | assign name e =>
    simp only [Statement.tree, Tree.run, Statement.eval, Effect.bind_apply,
      e.reads_run_tree heap bindings]
    -- the name is bound only where there is a value to bind
    cases e.eval heap (bindings.resolve heap) with
    | ok value => rfl
    | error error => rfl

-- Below the root an assignment would outlast the failure of what is around it.
example : (Tree.binary .divide (.assign "x" (.literal (.integer 1)))
      (.literal (.integer 0))).run .empty .empty =
    (.error .divisionByZero, Bindings.empty.put "x" (.integer 1)) := rfl

theorem run_eq (heap : Heap) (text : String) (bindings : Bindings) :
    Statement.run heap text bindings =
      ((Evaluator.reference heap (bindings.resolve heap) text).outcome,
        bindings.assign (Evaluator.reference heap (bindings.resolve heap) text).assigned) := by
  unfold Statement.run Evaluator.reference
  rw [Effect.bind_apply]
  cases Statement.parse text with
  | error error => rfl
  | ok statement => exact run_tree heap bindings statement

end Statement

/-! ## The change that an evaluation makes -/

namespace Entries

variable {α : Type}

/-- Entries that differ only in that a name has a value: in its old place, or at the end
if it is new. -/
inductive Rebound (name : String) (value : α) : Entries α → Entries α → Prop
  | replaced {before after : Entries α} {old : α} (h : name ∉ before.keys) :
      Rebound name value (before ++ (name, old) :: after) (before ++ (name, value) :: after)
  | appended {entries : Entries α} (h : name ∉ entries.keys) :
      Rebound name value entries (entries ++ [(name, value)])

theorem Rebound.cons {name : String} {value : α} {entries after : Entries α}
    {entry : String × α} (hentry : entry.1 ≠ name) (h : Rebound name value entries after) :
    Rebound name value (entry :: entries) (entry :: after) := by
  have hkeys {entries : Entries α} (h : name ∉ entries.keys) :
      name ∉ keys (entry :: entries) := by
    simp only [keys, List.map_cons, List.mem_cons, not_or]
    exact ⟨hentry.symm, h⟩
  cases h with
  | replaced h =>
    rw [← List.cons_append, ← List.cons_append]
    exact .replaced (hkeys h)
  | appended h => exact .appended (hkeys h)

/-- Storing a value rebinds its name. -/
theorem rebound_put (entries : Entries α) (name : String) (value : α) :
    Rebound name value entries (entries.put name value) := by
  induction entries with
  | nil => exact .appended (by simp [keys])
  | cons entry rest ih =>
    obtain ⟨key, old⟩ := entry
    by_cases hkey : key = name
    · subst hkey
      rw [put, if_pos rfl]
      have hnew : key ∉ keys ([] : Entries α) := by simp [keys]
      exact .replaced hnew
    · rw [put, if_neg hkey]
      exact ih.cons hkey

end Entries

/-- The evaluator of the language assigns once, where the text is an assignment and
its right side has a value, or not at all. -/
theorem Evaluator.reference_cases (heap : Heap) (lookup : Lookup) (text : String) :
    (∃ name e value, Statement.parse text = .ok (.assign name e) ∧
      Evaluator.reference heap lookup text = ⟨.ok value, [(name, value)]⟩) ∨
    ∃ outcome, Evaluator.reference heap lookup text = ⟨outcome, []⟩ ∧
      ∀ value, outcome = .ok value → ∀ name e, Statement.parse text ≠ .ok (.assign name e) := by
  unfold Evaluator.reference
  cases hparse : Statement.parse text with
  | error cause => exact .inr ⟨_, rfl, by simp⟩
  | ok statement =>
    cases statement with
    | expr e => exact .inr ⟨_, rfl, by simp⟩
    | assign name e =>
      simp only [Statement.eval]
      cases e.eval heap lookup with
      | error cause => exact .inr ⟨_, rfl, by simp⟩
      | ok value => exact .inl ⟨name, e, value, rfl, rfl⟩

namespace Context

open Grammar

variable {engine : Engine} {heap : Heap} {context after : Context} {text : String}
  {outcome : Except RenderError Value}

/-- **Evaluation is all or nothing.**  Where it fails the context is as it was.  Where
it succeeds the context is as it was, unless the text is the assignment to a name; then
this name has the value, and nothing else has changed.  Evaluating in place comes to the
same, in the outcome and in the bindings. -/
theorem evaluate_all_or_nothing (hengine : engine.evaluator = .reference)
    (h : context.evaluate engine heap text = (outcome, after)) :
    (∀ error, outcome = .error error → after = context) ∧
    (∀ value, outcome = .ok value →
      (∃ name e entries, Statement.parse text = .ok (.assign name e) ∧
        Entries.Rebound name value context.bindings.entries entries ∧
        after = { context with bindings.entries := entries }) ∨
      (∀ name e, Statement.parse text ≠ .ok (.assign name e)) ∧ after = context) ∧
    ∃ result, outcome = result.mapError .expr ∧
      Statement.run heap text context.bindings = (result, after.bindings) := by
  unfold evaluate at h
  rw [hengine] at h
  have hrun := Statement.run_eq heap text context.bindings
  obtain ⟨name, e, value, hparse, heval⟩ | ⟨result, heval, hresult⟩ :=
    Evaluator.reference_cases heap (context.bindings.resolve heap) text
  · rw [heval] at h hrun
    cases h
    refine ⟨?_, ?_, _, rfl, hrun⟩
    · intro error herror
      cases herror
    · intro found hfound
      cases hfound
      exact .inl ⟨name, e, _, hparse, Entries.rebound_put _ name value, rfl⟩
  · rw [heval] at h hrun
    cases h
    refine ⟨fun _ _ => rfl, ?_, _, rfl, hrun⟩
    intro value hvalue
    cases result with
    | error error => cases hvalue
    | ok found => exact .inr ⟨hresult found rfl, rfl⟩

/-- A context in which an order has a number. -/
def numbered (number : Int64) : Context :=
  ⟨⟨[("number", .integer number), ("open", .boolean true)], none⟩, [], 0⟩

/-- The new number stands where the old one did; no number is found by dividing by zero,
and so the old one stays. -/
theorem evaluate_all_or_nothing_numbered :
    (Engine.new .default).evaluator = .reference ∧
    (numbered 4).evaluate (.new .default) .empty "number = number * 2" =
      (.ok (.integer 8), numbered 8) ∧
    Statement.run .empty "number = number * 2" (numbered 4).bindings =
      (.ok (.integer 8), (numbered 8).bindings) ∧
    (numbered 4).evaluate (.new .default) .empty "number = number / 0" =
      (.error (.expr .divisionByZero), numbered 4) := by
  have hnumber : Derives .multiplicative [.identifier "number"] (.ident "number") :=
    (Derives.name "number").loosen (by decide)
  have hliteral : ∀ i : Int64, Derives .unary [.integer i] (.literal (.integer i)) :=
    fun i => (Derives.literal (.integer i)).loosen (by decide)
  have hproduct : Statement.parse "number = number * 2" = .ok (.assign "number"
      (.binary .multiply (.ident "number") (.literal (.integer 2)))) :=
    Parser.program_iff_sentence.2 ⟨_, rfl,
      .assign (.bare "number") ((Derives.join rfl rfl hnumber (hliteral 2)).loosen (by decide))⟩
  have hquotient : Statement.parse "number = number / 0" = .ok (.assign "number"
      (.binary .divide (.ident "number") (.literal (.integer 0)))) :=
    Parser.program_iff_sentence.2 ⟨_, rfl,
      .assign (.bare "number") ((Derives.join rfl rfl hnumber (hliteral 0)).loosen (by decide))⟩
  have hdoubled : (numbered 4).evaluate (.new .default) .empty "number = number * 2" =
      (.ok (.integer 8), numbered 8) := by
    simp only [evaluate, Engine.new, Evaluator.reference, hproduct]
    rfl
  obtain ⟨after, hdivided⟩ : ∃ after, (numbered 4).evaluate (.new .default) .empty
      "number = number / 0" = (.error (.expr .divisionByZero), after) := by
    simp only [evaluate, Engine.new, Evaluator.reference, hquotient]
    exact ⟨_, rfl⟩
  refine ⟨rfl, hdoubled, ?_, ?_⟩
  · obtain ⟨-, -, result, hresult, hrun⟩ := evaluate_all_or_nothing rfl hdoubled
    cases result with
    | error error => cases hresult
    | ok value =>
      cases hresult
      exact hrun
  · rw [hdivided, (evaluate_all_or_nothing rfl hdivided).1 _ rfl]

end Context

end DynamicSql

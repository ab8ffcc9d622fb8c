import DynamicSql.Proofs.Navigation.Steps

/-!
# The courses of a write

`Course` lists, once and for all, the courses that a write along a path can take:
it fails on the way down, it has nothing to do, it stores at the last step, or it
writes into the value of its first step and then stores that value back, unless
it is a shared object.  Every later result about writes is an induction on
`Course`.  The first ones are `heap_of_course` and `value_of_course`: a path that
meets no object leaves the heap alone, and a path that meets one leaves the value
itself alone.
-/

namespace DynamicSql.Navigation

open DynamicSql.Path (Step)

/-! ## Writing one step -/

/-- A write of one step that has an outcome has stored. -/
theorem setStep_of_writeStep {heap : Heap} {value new result : Value} {step : Step}
    (h : (writeStep heap value step new).outcome = .ok result) :
    setStep heap value step new = .ok (result, (writeStep heap value step new).heap) := by
  unfold writeStep at h ⊢
  split at h
  · rename_i stored after hset
    cases h
    simp [hset]
  · cases h

theorem setStep_of_writeStep_error {heap : Heap} {value new : Value} {step : Step}
    {error : AccessError} (h : (writeStep heap value step new).outcome = .error error) :
    setStep heap value step new = .error error ∧ (writeStep heap value step new).heap = heap := by
  unfold writeStep at h ⊢
  split at h
  · cases h
  · rename_i found hset
    cases h
    simp [hset, Written.failed]

/-- Storing in a value held by value leaves the heap alone. -/
theorem writeStep_heap {heap : Heap} {value : Value} (hv : HeldByValue value) (step : Step)
    (new : Value) : (writeStep heap value step new).heap = heap := by
  cases h : (writeStep heap value step new).outcome with
  | error e => exact (setStep_of_writeStep_error h).2
  | ok result => exact (getStep_setStep hv (setStep_of_writeStep h)).1

/-! ## The courses of a write -/

/-- What is put in place of null is an empty mapping or an empty list. -/
theorem placeholder_cases {heap : Heap} {value start : Value} {steps : List Step} {step : Step}
    (h : placeholder heap value steps step = .ok start) : start = .map [] ∨ start = .list [] := by
  unfold placeholder at h
  cases value <;> simp only [bind, Except.bind] at h
  case object id =>
    split at h
    · cases h
    · split at h <;> cases h <;> simp
  all_goals cases h; simp

/-- The courses that a write along steps can take, each with its outcome. -/
inductive Course (heap : Heap) : Value → List Step → Value → Written → Prop
  /-- There is no step: the new value takes the place of the old one. -/
  | replaced {value new : Value} : Course heap value [] new ⟨.ok new, heap⟩
  /-- The last step stores the new value. -/
  | last {value new : Value} {step : Step} :
    Course heap value [step] new (writeStep heap value step new)
  /-- The way down ends at a step that cannot be read, at a scalar, or at a null
  that nothing can be put in place of. -/
  | blocked {value new : Value} {step next : Step} {rest : List Step}
    {error : AccessError} :
    Course heap value (step :: next :: rest) new (.failed heap error)
  /-- Null is written behind null. -/
  | nothing {value : Value} {step next : Step} {rest : List Step}
    (hread : getStep heap value step = .ok .null) :
    Course heap value (step :: next :: rest) .null ⟨.ok value, heap⟩
  /-- A new mapping or list takes the place of null. -/
  | created {after : Heap} {value new start changed : Value} {step next : Step}
    {rest : List Step} (hread : getStep heap value step = .ok .null)
    (hstart : start = .map [] ∨ start = .list [])
    (hinner : Course heap start (next :: rest) new ⟨.ok changed, after⟩) :
    Course heap value (step :: next :: rest) new (writeStep after value step changed)
  /-- The write fails inside a new mapping or list. -/
  | createdFailed {after : Heap} {value new start : Value} {step next : Step}
    {rest : List Step} {error : AccessError} (hread : getStep heap value step = .ok .null)
    (hstart : start = .map [] ∨ start = .list [])
    (hinner : Course heap start (next :: rest) new ⟨.error error, after⟩) :
    Course heap value (step :: next :: rest) new (.failed after error)
  /-- A mapping or list on the way is changed and stored back. -/
  | storedBack {after : Heap} {value new child changed : Value} {step next : Step}
    {rest : List Step} (hread : getStep heap value step = .ok child)
    (hchild : isTraversable child = true) (hchanged : changed.isContainer = true)
    (hset : set heap child (next :: rest) new = ⟨.ok changed, after⟩)
    (hinner : Course heap child (next :: rest) new ⟨.ok changed, after⟩) :
    Course heap value (step :: next :: rest) new (writeStep after value step changed)
  /-- An object on the way is changed where it is. -/
  | shared {after : Heap} {value new child changed : Value} {step next : Step}
    {rest : List Step} (hread : getStep heap value step = .ok child)
    (hchild : isTraversable child = true) (hchanged : changed.isContainer = false)
    (hinner : Course heap child (next :: rest) new ⟨.ok changed, after⟩) :
    Course heap value (step :: next :: rest) new ⟨.ok value, after⟩
  /-- The write fails behind the first step. -/
  | innerFailed {after : Heap} {value new child : Value} {step next : Step}
    {rest : List Step} {error : AccessError} (hread : getStep heap value step = .ok child)
    (hchild : isTraversable child = true)
    (hinner : Course heap child (next :: rest) new ⟨.error error, after⟩) :
    Course heap value (step :: next :: rest) new (.failed after error)

/-- Every write takes one of the courses. -/
theorem course_set (heap : Heap) (value : Value) (steps : List Step) (new : Value) :
    Course heap value steps new (set heap value steps new) := by
  fun_induction set heap value steps new with
  | case1 => exact .replaced
  | case2 => exact .last
  | case3 => exact .blocked
  | case4 value step next rest new child hread hnull =>
    simp only [Bool.and_eq_true] at hnull
    obtain ⟨rfl, rfl⟩ : child = .null ∧ new = .null := by
      cases child <;> cases new <;> simp_all [Value.isNull]
    exact .nothing hread
  | case5 => exact .blocked
  | case6 value step next rest new steps child hread _ start hstart htrav error after hset ih =>
    rw [hset] at ih
    by_cases hnull : child.isNull = true
    · obtain rfl : child = .null := by cases child <;> simp_all [Value.isNull]
      rw [if_pos hnull] at hstart
      exact .createdFailed hread (placeholder_cases hstart) ih
    · rw [if_neg hnull] at hstart
      cases hstart
      exact .innerFailed hread htrav ih
  | case7 value step next rest new steps child hread _ start hstart htrav changed after hset
      hback ih =>
    rw [hset] at ih
    by_cases hnull : child.isNull = true
    · obtain rfl : child = .null := by cases child <;> simp_all [Value.isNull]
      rw [if_pos hnull] at hstart
      exact .created hread (placeholder_cases hstart) ih
    · rw [if_neg hnull] at hstart
      cases hstart
      exact .storedBack hread htrav (by simpa [hnull] using hback) hset ih
  | case8 value step next rest new steps child hread _ start hstart htrav changed after hset
      hback ih =>
    rw [hset] at ih
    simp only [Bool.or_eq_true, not_or, Bool.not_eq_true] at hback
    obtain ⟨hnull, hchanged⟩ := hback
    rw [if_neg (by simp [hnull])] at hstart
    cases hstart
    exact .shared hread htrav hchanged ih
  | case9 => exact .blocked

/-! ## The heap and the value after a write -/

/-- Whether it succeeds or not, a write that meets no object leaves the heap alone. -/
theorem heap_of_course {heap : Heap} {value new : Value} {steps : List Step} {written : Written}
    (hcourse : Course heap value steps new written) (hvisited : visited heap value steps = []) :
    written.heap = heap := by
  induction hcourse with
  | replaced | blocked | nothing => rfl
  | last => exact writeStep_heap (heldByValue_of_visited hvisited) _ _
  | created hread hstart hinner ih =>
    obtain rfl := ih (visited_of_empty hstart _)
    exact writeStep_heap (heldByValue_of_visited hvisited) _ _
  | createdFailed hread hstart hinner ih => exact ih (visited_of_empty hstart _)
  | storedBack hread hchild hchanged hset hinner ih =>
    have hv := heldByValue_of_visited hvisited
    rw [visited_cons_of_heldByValue hv hread] at hvisited
    obtain rfl := ih hvisited
    exact writeStep_heap hv _ _
  | shared hread hchild hchanged hinner ih | innerFailed hread hchild hinner ih =>
    rw [visited_cons_of_heldByValue (heldByValue_of_visited hvisited) hread] at hvisited
    exact ih hvisited

/-- A write that meets an object changes nothing outside of objects: the value that
is written into stays as it is. -/
theorem value_of_course {heap : Heap} {value new : Value} {steps : List Step} {written : Written}
    (hcourse : Course heap value steps new written) (hvisited : visited heap value steps ≠ [])
    {result : Value} (hresult : written.outcome = .ok result) : result = value := by
  induction hcourse generalizing result with
  | replaced => exact absurd rfl hvisited
  | @last value =>
    rcases heldByValue_or_object value with hv | ⟨id, rfl⟩
    · exact absurd (visited_last hv _) hvisited
    · exact setStep_object (setStep_of_writeStep hresult)
  | blocked | createdFailed | innerFailed => cases hresult
  | nothing | shared => cases hresult; rfl
  | @created _ value _ _ _ _ _ _ hread =>
    rcases heldByValue_or_object value with hv | ⟨id, rfl⟩
    · rw [visited_cons_of_heldByValue hv hread, visited_null] at hvisited
      exact absurd rfl hvisited
    · exact setStep_object (setStep_of_writeStep hresult)
  | @storedBack _ value _ _ _ _ _ _ hread hchild _ _ _ ih =>
    rcases heldByValue_or_object value with hv | ⟨id, rfl⟩
    · rw [visited_cons_of_heldByValue hv hread] at hvisited
      obtain rfl := ih hvisited rfl
      have hback := setStep_of_writeStep hresult
      rw [setStep_getStep hv hread (isNull_of_isTraversable hchild)] at hback
      simp only [Except.ok.injEq, Prod.mk.injEq] at hback
      exact hback.1.symm
    · exact setStep_object (setStep_of_writeStep hresult)

end DynamicSql.Navigation

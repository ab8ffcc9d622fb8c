import DynamicSql.Navigation.InPlace
import DynamicSql.Proofs.Navigation.Course

/-!
# Failed writes

A write in place does what a write by value does, and after a failure the navigator
still holds the value that it held before (`set_inPlace`).  The objects of the heap
are as before, too, unless the write is stranded: it has been carried out behind a
mapping or list that an object holds, and only storing that mapping or list back
into the object has failed (`Stranded`).
-/

namespace DynamicSql.Navigation

open DynamicSql.Path (Step)

/-! ## Writing in place -/

/-- What a navigator holds after a write: the value written into, or after a failure
the value it held before. -/
def Navigator.after (nav : Navigator) (written : Written) :
    Except AccessError Unit × Navigator :=
  match written.outcome with
  | .ok value => (.ok (), ⟨value, written.heap⟩)
  | .error error => (.error error, ⟨nav.value, written.heap⟩)

theorem setProperty_inPlace (nav : Navigator) (name : String) (new : Value) :
    nav.setProperty name new = match setProperty nav.heap nav.value name new with
      | .ok (value, heap) => (.ok (), ⟨value, heap⟩)
      | .error error => (.error error, nav) := by
  obtain ⟨value, heap⟩ := nav
  cases value with
  | object id =>
    simp only [Navigator.setProperty, setProperty]
    cases heap.write id name new <;> rfl
  | _ => rfl

theorem setStep_inPlace (nav : Navigator) (step : Step) (new : Value) :
    nav.setStep step new = nav.after (writeStep nav.heap nav.value step new) := by
  unfold Navigator.setStep writeStep setStep
  cases step.index with
  | none =>
    rw [setProperty_inPlace]
    cases setProperty nav.heap nav.value step.name new <;> rfl
  | some index =>
    cases indexed nav.heap nav.value step with
    | error e => rfl
    | ok collection =>
      simp only [bind, Except.bind]
      cases storeAt collection index step.name new with
      | error e => rfl
      | ok stored =>
        by_cases hname : step.name = ""
        · simp [hname, Navigator.after]
        · simp only [hname, if_false, setProperty_inPlace]
          cases setProperty nav.heap nav.value step.name stored <;> rfl

/-- **Writing in place is writing by value.**  In particular a failed write leaves the
value that is navigated as it was. -/
theorem set_inPlace (nav : Navigator) (steps : List Step) (new : Value) :
    nav.set steps new = nav.after (set nav.heap nav.value steps new) := by
  induction steps generalizing nav with
  | nil => rfl
  | cons step rest ih =>
    cases rest with
    | nil => exact setStep_inPlace nav step new
    | cons next rest =>
      unfold Navigator.set set
      cases getStep nav.heap nav.value step with
      | error e => rfl
      | ok child =>
        dsimp only
        split
        · rfl
        · cases if child.isNull then placeholder nav.heap nav.value (step :: next :: rest) step
            else .ok child with
          | error e => rfl
          | ok start =>
            dsimp only
            split
            · rw [ih ⟨start, nav.heap⟩]
              obtain ⟨outcome, heap⟩ := set nav.heap start (next :: rest) new
              cases outcome with
              | error e => rfl
              | ok changed =>
                simp only [Navigator.after]
                split
                · rw [setStep_inPlace]
                  rfl
                · rfl
            · rfl

/-! ## Stranded writes -/

/-- A write that fails although it has been carried out: the path reads a mapping or
list from an object and goes on through it to another object, the write behind it
succeeds and leads to the heap `after`, and then the mapping or list, which has not
changed, cannot be stored back. -/
inductive Stranded (heap : Heap) (new : Value) (error : AccessError) (after : Heap) :
    Value → List Step → Prop
  | here {id : ObjectId} {held : Value} {step next : Step} {rest : List Step}
    (hread : getStep heap (.object id) step = .ok held) (hheld : held.isContainer = true)
    (hvisited : visited heap held (next :: rest) ≠ [])
    (hset : set heap held (next :: rest) new = ⟨.ok held, after⟩)
    (hback : setStep after (.object id) step held = .error error) :
    Stranded heap new error after (.object id) (step :: next :: rest)
  | behind {value child : Value} {step next : Step} {rest : List Step}
    (hread : getStep heap value step = .ok child) (hchild : isTraversable child = true)
    (hrest : Stranded heap new error after child (next :: rest)) :
    Stranded heap new error after value (step :: next :: rest)

/-- A failed write leaves the heap alone, or it is stranded. -/
theorem stranded_of_course {heap : Heap} {value new : Value} {steps : List Step}
    {written : Written} {error : AccessError} (hcourse : Course heap value steps new written)
    (herror : written.outcome = .error error) :
    written.heap = heap ∨ Stranded heap new error written.heap value steps := by
  induction hcourse with
  | replaced | nothing | shared => cases herror
  | blocked => exact .inl rfl
  | last => exact .inl (setStep_of_writeStep_error herror).2
  | created hread hstart hinner ih =>
    obtain rfl := heap_of_course hinner (visited_of_empty hstart _)
    exact .inl (setStep_of_writeStep_error herror).2
  | createdFailed hread hstart hinner ih =>
    exact .inl (heap_of_course hinner (visited_of_empty hstart _))
  | @storedBack after value new child changed step next rest hread hchild hchanged hset hinner ih =>
    obtain ⟨hback, hheap⟩ := setStep_of_writeStep_error herror
    rw [hheap]
    by_cases hrest : visited heap child (next :: rest) = []
    · exact .inl (heap_of_course hinner hrest)
    · -- what is stored back has not changed, so only an object can refuse it
      obtain rfl := value_of_course hinner hrest rfl
      rcases heldByValue_or_object value with hv | ⟨id, rfl⟩
      · obtain ⟨result, hresult⟩ := setStep_of_getStep hv hread after changed
        rw [hresult] at hback
        cases hback
      · exact .inr (.here hread hchanged hrest hset hback)
  | innerFailed hread hchild hinner ih =>
    cases herror
    rcases ih rfl with hheap | hrest
    · exact .inl hheap
    · exact .inr (.behind hread hchild hrest)

/-- A stranded write fails, and leaves the heap as the write behind it left it. -/
theorem set_of_stranded {heap after : Heap} {value new : Value} {steps : List Step}
    {error : AccessError} (h : Stranded heap new error after value steps) :
    set heap value steps new = ⟨.error error, after⟩ := by
  induction h with
  | here hread hheld hvisited hset hback =>
    have hnull := isNull_of_isContainer hheld
    have htrav := isTraversable_of_isContainer hheld
    simp [set, hread, hnull, htrav, hset, hheld, writeStep, hback, Written.failed]
  | behind hread hchild hrest ih =>
    have hnull := isNull_of_isTraversable hchild
    simp [set, hread, hnull, hchild, ih, Written.failed]

/-- **What a failed write leaves behind.**  The value that is navigated is as before.
So are the objects of the heap, unless the write is stranded; and a stranded write
does fail, with the objects as the write behind the mapping or list left them. -/
theorem setPath_failed (nav after : Navigator) (path : String) (new : Value)
    (error : AccessError) :
    (nav.setPath path new = (.error error, after) →
      after.value = nav.value ∧
        (after.heap = nav.heap ∨
          Stranded nav.heap new error after.heap nav.value (Path.steps path))) ∧
    (Stranded nav.heap new error after.heap nav.value (Path.steps path) →
      nav.setPath path new = (.error error, ⟨nav.value, after.heap⟩)) := by
  have hcourse := course_set nav.heap nav.value (Path.steps path) new
  rw [Navigator.setPath, set_inPlace]
  constructor
  · intro h
    generalize set nav.heap nav.value (Path.steps path) new = written at h hcourse
    obtain ⟨outcome, heap⟩ := written
    cases outcome with
    | ok value => cases h
    | error found =>
      cases h
      exact ⟨rfl, stranded_of_course hcourse rfl⟩
  · intro h
    rw [set_of_stranded h]
    rfl

/-! ## Cabinets whose contents are fixed -/

/-- A class whose contents can only be read, with a count that can be written. -/
def cabinet : ClassDecl :=
  { ClassDecl.empty "Cabinet" with
    fields := [⟨"held", .any, true, false, .slot "held", none⟩,
      ⟨"count", .any, false, false, .slot "count", some ⟨"count", .any⟩⟩] }

/-- A cabinet that holds another one, by name, and the counts of both. -/
def cabinets (outer inner : Int64) : Heap :=
  ⟨fun _ => cabinet,
    [⟨⟨0, "Cabinet"⟩, [("held", .map [("inner", .object ⟨1⟩)]), ("count", .integer outer)]⟩,
      ⟨⟨0, "Cabinet"⟩, [("held", .null), ("count", .integer inner)]⟩]⟩

/-- Writing the count of the inner cabinet from the outer one fails, and the count is
written. -/
theorem setPath_cabinets :
    Navigator.setPath ⟨.object ⟨0⟩, cabinets 1 2⟩ "held.inner.count" (.integer 5) =
      (.error (.noSetter "held" "Cabinet"), ⟨.object ⟨0⟩, cabinets 1 5⟩) := by
  have hsteps : Path.steps "held.inner.count" =
      [⟨"held", "held", none⟩, ⟨"inner", "inner", none⟩, ⟨"count", "count", none⟩] := by rfl
  rw [Navigator.setPath, hsteps]
  rfl

/-- A write to the inner cabinet from the outer one is stranded. -/
theorem setPath_failed_cabinets :
    Navigator.setPath ⟨.object ⟨0⟩, cabinets 1 2⟩ "held.inner.count" (.integer 5) =
      (.error (.noSetter "held" "Cabinet"), ⟨.object ⟨0⟩, cabinets 1 5⟩) ∧
    (cabinets 1 5 = cabinets 1 2 ∨
      Stranded (cabinets 1 2) (.integer 5) (.noSetter "held" "Cabinet") (cabinets 1 5)
        (.object ⟨0⟩) (Path.steps "held.inner.count")) :=
  ⟨setPath_cabinets, ((setPath_failed _ _ _ _ _).1 setPath_cabinets).2⟩

/-- **A failed write can change an object.**  The count of the inner cabinet is
written, and then the mapping that holds this cabinet cannot be stored back. -/
theorem failed_write_changes_slot :
    Navigator.setPath ⟨.object ⟨0⟩, cabinets 1 2⟩ "held.inner.count" (.integer 5) =
      (.error (.noSetter "held" "Cabinet"), ⟨.object ⟨0⟩, cabinets 1 5⟩) ∧
    (cabinets 1 2).slot ⟨1⟩ "count" = .integer 2 ∧
    (cabinets 1 5).slot ⟨1⟩ "count" = .integer 5 :=
  ⟨setPath_cabinets, rfl, rfl⟩

end DynamicSql.Navigation

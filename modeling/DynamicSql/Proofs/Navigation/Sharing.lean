import DynamicSql.Proofs.Heap.Slots
import DynamicSql.Proofs.Navigation.Lens

/-!
# Writing through shared objects

Mappings and lists are copied on the way down and stored back on the way up, while
objects are changed where they are.  Storing back a copy that the write has not
changed puts the old value of a slot in its place again, which is harmless unless
it is the very slot that the write ended in.  So a write through objects whose
properties are backed by one slot each is read back (`get_of_course_backed`) as
long as the path does not come back to the slot that it ends in.  Where it does,
the write can be lost, or cut off the path itself (`lost_writes`).
-/

namespace DynamicSql.Navigation

open DynamicSql.Path (Step)

/-! ## Lists that do not end on an earlier item -/

section

variable {α : Type} [DecidableEq α]

theorem endsOnEarlier_append (earlier : List α) (last : α) :
    endsOnEarlier (earlier ++ [last]) = decide (last ∈ earlier) := by
  simp [endsOnEarlier]

theorem endsOnEarlier_cons {first : α} {rest : List α} (hrest : rest ≠ [])
    (h : endsOnEarlier (first :: rest) = false) :
    endsOnEarlier rest = false ∧ rest.getLast? ≠ some first := by
  obtain ⟨earlier, last, rfl⟩ : ∃ earlier last, rest = earlier ++ [last] :=
    ⟨rest.dropLast, rest.getLast hrest, (List.dropLast_concat_getLast hrest).symm⟩
  rw [← List.cons_append, endsOnEarlier_append, decide_eq_false_iff_not, List.mem_cons] at h
  rw [endsOnEarlier_append, decide_eq_false_iff_not, List.getLast?_concat]
  exact ⟨fun hmem => h (.inr hmem), fun heq => h (.inl (Option.some.inj heq))⟩

end

/-! ## Single steps through backed properties -/

/-- The property that a step asks of an object is backed by one slot. -/
def BackedStep (heap : Heap) (value : Value) (step : Step) : Prop :=
  ∀ id, value = .object id → ∃ slot, heap.backing? id step.name = some slot

theorem getProperty_object {heap : Heap} {id : ObjectId} {name slot : String}
    (hslot : heap.backing? id name = some slot) :
    getProperty heap (.object id) name = .ok (heap.slot id slot) :=
  Heap.read_of_backing? hslot

theorem setProperty_object {heap : Heap} {id : ObjectId} {name slot : String}
    (hslot : heap.backing? id name = some slot) (new : Value) :
    setProperty heap (.object id) name new = .ok (.object id, heap.setSlot id slot new) := by
  rw [setProperty, Heap.write_of_backing? hslot]
  rfl

/-- A step of an object reads the slot of its property, unless the step has no name. -/
theorem getStep_object {heap : Heap} {id : ObjectId} {step : Step} {slot : String}
    (hslot : heap.backing? id step.name = some slot) :
    getStep heap (.object id) step = match step.index with
      | none => .ok (heap.slot id slot)
      | some index =>
        if step.name = "" then .error (.invalidIndex index step.name)
        else indexInto (heap.slot id slot) index step.name := by
  unfold getStep indexed
  rw [getProperty_object hslot]
  cases step.index with
  | none => rfl
  | some index => by_cases hname : step.name = "" <;> simp [hname, indexInto, bind, Except.bind]

/-- What a step stores in an object is read back, and only the slot of the property
changes. -/
theorem getStep_setStep_object {heap after : Heap} {id : ObjectId} {result new : Value}
    {step : Step} {slot : String} (hslot : heap.backing? id step.name = some slot)
    (h : setStep heap (.object id) step new = .ok (result, after)) :
    (∃ stored, after = heap.setSlot id slot stored) ∧
      getStep after (.object id) step = .ok new := by
  have hid := Heap.lt_of_backing? hslot
  rcases setStep_eq_ok_iff.1 h with ⟨_, -, -, -, hstored⟩ |
    ⟨index, collection, stored, hindex, hname, -, hstored, hset⟩ | ⟨hindex, hset⟩
  · -- an object itself has no indexes
    cases hstored
  · rw [setProperty_object hslot] at hset
    cases hset
    refine ⟨⟨stored, rfl⟩, ?_⟩
    rw [getStep_object (by rwa [Heap.backing?_setSlot]), Heap.slot_setSlot_self hid]
    simpa only [hindex, hname, if_false] using (indexInto_storeAt hstored).2 step.name
  · rw [setProperty_object hslot] at hset
    cases hset
    refine ⟨⟨new, rfl⟩, ?_⟩
    rw [getStep_object (by rwa [Heap.backing?_setSlot]), hindex, Heap.slot_setSlot_self hid]

/-- Storing what a step reads changes nothing, also in an object. -/
theorem setStep_getStep_backed {heap : Heap} {value item : Value} {step : Step}
    (hbacked : BackedStep heap value step) (h : getStep heap value step = .ok item)
    (hitem : item.isNull = false) : setStep heap value step item = .ok (value, heap) := by
  rcases heldByValue_or_object value with hv | ⟨id, rfl⟩
  · exact setStep_getStep hv h hitem heap
  · obtain ⟨slot, hslot⟩ := hbacked id rfl
    rw [getStep_object hslot] at h
    unfold setStep indexed
    rw [getProperty_object hslot]
    cases hindex : step.index with
    | none =>
      simp only [hindex, Except.ok.injEq] at h
      simp only [setProperty_object hslot, Heap.setSlot_slot h hitem]
    | some index =>
      by_cases hname : step.name = ""
      · simp [hindex, hname] at h
      · simp only [hindex, hname, if_false] at h
        have hcollection := isNull_of_isContainer (isContainer_of_indexInto h)
        simp only [hname, if_false, bind, Except.bind, storeAt_indexInto h hitem,
          setProperty_object hslot, Heap.setSlot_slot rfl hcollection]

/-! ## Writes that change at most one slot -/

/-- At most the given slot is different. -/
def ChangesAtMost (heap : Heap) (slot : ObjectId × Option String) (after : Heap) : Prop :=
  after = heap ∨ ∃ name stored, slot.2 = some name ∧ after = heap.setSlot slot.1 name stored

theorem ChangesAtMost.backing? {heap after : Heap} {slot : ObjectId × Option String}
    (h : ChangesAtMost heap slot after) (id : ObjectId) (property : String) :
    after.backing? id property = heap.backing? id property := by
  rcases h with rfl | ⟨name, stored, -, rfl⟩
  · rfl
  · exact Heap.backing?_setSlot property

/-- A step that does not read the changed slot reads what it read before. -/
theorem ChangesAtMost.getStep {heap after : Heap} {slot : ObjectId × Option String}
    (h : ChangesAtMost heap slot after) {value item : Value} {step : Step}
    (hbacked : BackedStep heap value step) (hread : getStep heap value step = .ok item)
    (hne : ∀ id, value = .object id → slot ≠ (id, heap.backing? id step.name)) :
    getStep after value step = .ok item := by
  rcases heldByValue_or_object value with hv | ⟨id, rfl⟩
  · exact getStep_heldByValue hv hread after
  · obtain ⟨name, hname⟩ := hbacked id rfl
    have hsame : after.slot id name = heap.slot id name := by
      rcases h with rfl | ⟨changed, stored, hchanged, rfl⟩
      · rfl
      · refine Heap.slot_setSlot_of_ne fun heq => hne id rfl ?_
        cases heq
        rw [hname, ← hchanged]
    rw [getStep_object (by rwa [h.backing?]), hsame, ← getStep_object hname, hread]

/-! ## Paths through backed properties -/

/-- Every property that a path asks of an object is backed by one slot. -/
def Backed (heap : Heap) (value : Value) (steps : List Step) : Prop :=
  ∀ found ∈ visited heap value steps, (heap.backing? found.1 found.2).isSome

theorem passedSlots_object {heap : Heap} {id : ObjectId} {child : Value} {step : Step}
    {rest : List Step} (h : getStep heap (.object id) step = .ok child) :
    passedSlots heap (.object id) (step :: rest) =
      (id, heap.backing? id step.name) :: passedSlots heap child rest := by
  rw [passedSlots, visited_object h, List.map_cons, passedSlots]

theorem passedSlots_of_heldByValue {heap : Heap} {value child : Value} {step : Step}
    {rest : List Step} (hv : HeldByValue value) (h : getStep heap value step = .ok child) :
    passedSlots heap value (step :: rest) = passedSlots heap child rest := by
  rw [passedSlots, visited_cons_of_heldByValue hv h, passedSlots]

theorem passedSlots_ne_nil {heap : Heap} {value : Value} {steps : List Step}
    (h : visited heap value steps ≠ []) : passedSlots heap value steps ≠ [] := by
  simpa [passedSlots] using h

theorem Backed.step {heap : Heap} {value : Value} {step : Step} {rest : List Step}
    (h : Backed heap value (step :: rest)) : BackedStep heap value step := by
  rintro id rfl
  exact Option.isSome_iff_exists.1 (h (id, step.name) (by simp [visited]))

theorem Backed.rest {heap : Heap} {value child : Value} {step : Step} {rest : List Step}
    (h : Backed heap value (step :: rest)) (hread : getStep heap value step = .ok child) :
    Backed heap child rest := by
  rcases heldByValue_or_object value with hv | ⟨id, rfl⟩
  · rwa [Backed, visited_cons_of_heldByValue hv hread] at h
  · rw [Backed, visited_object hread] at h
    exact fun found hfound => h found (List.mem_cons_of_mem _ hfound)

/-- Where the path meets its only object at its first step, it starts there. -/
theorem object_of_visited {heap : Heap} {value child : Value} {step : Step} {rest : List Step}
    (hvisited : visited heap value (step :: rest) ≠ [])
    (hread : getStep heap value step = .ok child) (hchild : visited heap child rest = []) :
    ∃ id, value = .object id := by
  rcases heldByValue_or_object value with hv | h
  · rw [visited_cons_of_heldByValue hv hread] at hvisited
    exact absurd hchild hvisited
  · exact h

/-- If the path goes on to another object, and ends in a slot that it has not come
through before, then the first step is settled: a write behind it that changes no
other slot leaves what it reads, so storing that back changes nothing. -/
theorem settled_step {heap after : Heap} {value child : Value} {step : Step} {rest : List Step}
    {slot : ObjectId × Option String} (hbacked : Backed heap value (step :: rest))
    (hfresh : endsOnEarlier (passedSlots heap value (step :: rest)) = false)
    (hread : getStep heap value step = .ok child) (hchild : isTraversable child = true)
    (hlast : (passedSlots heap child rest).getLast? = some slot)
    (hafter : ChangesAtMost heap slot after) :
    getStep after value step = .ok child ∧ setStep after value step child = .ok (value, after) ∧
      (passedSlots heap value (step :: rest)).getLast? = some slot := by
  have hstep := hbacked.step
  have hne : passedSlots heap child rest ≠ [] := by
    intro hnil
    simp [hnil] at hlast
  have hapart : ∀ id, value = .object id → slot ≠ (id, heap.backing? id step.name) := by
    rintro id rfl rfl
    rw [passedSlots_object hread] at hfresh
    exact (endsOnEarlier_cons hne hfresh).2 hlast
  have hsame := hafter.getStep hstep hread hapart
  have hbacked' : BackedStep after value step := by
    intro id hid
    rw [hafter.backing?]
    exact hstep id hid
  refine ⟨hsame, setStep_getStep_backed hbacked' hsame (isNull_of_isTraversable hchild), ?_⟩
  rcases heldByValue_or_object value with hv | ⟨id, rfl⟩
  · rw [passedSlots_of_heldByValue hv hread, hlast]
  · rw [passedSlots_object hread, List.getLast?_cons_of_ne_nil hne, hlast]

theorem fresh_rest {heap : Heap} {value child : Value} {step : Step} {rest : List Step}
    (hfresh : endsOnEarlier (passedSlots heap value (step :: rest)) = false)
    (hread : getStep heap value step = .ok child) (hvisited : visited heap child rest ≠ []) :
    endsOnEarlier (passedSlots heap child rest) = false := by
  rcases heldByValue_or_object value with hv | ⟨id, rfl⟩
  · rwa [passedSlots_of_heldByValue hv hread] at hfresh
  · rw [passedSlots_object hread] at hfresh
    exact (endsOnEarlier_cons (passedSlots_ne_nil hvisited) hfresh).1

/-- A write that stores at a step of an object, behind which the path meets no further
object, changes at most the slot that the path ends in, and is read back. -/
theorem stored_at_object {heap : Heap} {id : ObjectId} {new result : Value} {step : Step}
    {rest : List Step} (hbacked : Backed heap (.object id) (step :: rest))
    (hvisited : visited heap (.object id) (step :: rest) = [(id, step.name)])
    (hresult : (writeStep heap (.object id) step new).outcome = .ok result) :
    (∃ slot, (passedSlots heap (.object id) (step :: rest)).getLast? = some slot ∧
      ChangesAtMost heap slot (writeStep heap (.object id) step new).heap) ∧
      getStep (writeStep heap (.object id) step new).heap (.object id) step = .ok new := by
  obtain ⟨slot, hslot⟩ := hbacked.step id rfl
  obtain ⟨⟨stored, hafter⟩, hread⟩ := getStep_setStep_object hslot (setStep_of_writeStep hresult)
  refine ⟨⟨(id, some slot), ?_, .inr ⟨slot, stored, rfl, hafter⟩⟩, hread⟩
  simp [passedSlots, hvisited, hslot]

/-- **What was written through objects is read back.**  The write changes at most
the slot that the path ends in, and nothing that the path reads on the way. -/
theorem get_of_course_backed {heap : Heap} {value new : Value} {steps : List Step}
    {written : Written} (hcourse : Course heap value steps new written)
    (hvisited : visited heap value steps ≠ []) (hbacked : Backed heap value steps)
    (hfresh : endsOnEarlier (passedSlots heap value steps) = false)
    {result : Value} (hresult : written.outcome = .ok result) :
    (∃ slot, (passedSlots heap value steps).getLast? = some slot ∧
      ChangesAtMost heap slot written.heap) ∧ get written.heap value steps = .ok new := by
  induction hcourse generalizing result with
  | replaced => exact absurd rfl hvisited
  | blocked | createdFailed | innerFailed => cases hresult
  | @last value new step =>
    rcases heldByValue_or_object value with hv | ⟨id, rfl⟩
    · exact absurd (visited_last hv step) hvisited
    · have hlast : visited heap (.object id) [step] = [(id, step.name)] := by
        cases hold : getStep heap (.object id) step <;> simp [visited, hold]
      exact stored_at_object hbacked hlast hresult
  | @nothing value step next rest hread =>
    obtain ⟨id, rfl⟩ := object_of_visited hvisited hread (visited_null heap _)
    refine ⟨⟨(id, heap.backing? id step.name), ?_, .inl rfl⟩, get_cons_null hread⟩
    rw [passedSlots_object hread, passedSlots, visited_null]
    rfl
  | @created after value new start changed step next rest hread hstart hinner ih =>
    obtain ⟨id, rfl⟩ := object_of_visited hvisited hread (visited_null heap _)
    obtain ⟨rfl, hget, hcontainer⟩ := get_of_course hinner (visited_of_empty hstart _) rfl
    have hlast : visited after (.object id) (step :: next :: rest) = [(id, step.name)] := by
      rw [visited_object hread, visited_null]
    obtain ⟨hslot, hback⟩ := stored_at_object hbacked hlast hresult
    refine ⟨hslot, ?_⟩
    rw [get_cons_of_isTraversable hback (isTraversable_of_isContainer (hcontainer (by simp))), hget]
  | @storedBack after value new child changed step next rest hread hchild hchanged _ hinner ih =>
    by_cases hrest : visited heap child (next :: rest) = []
    · -- the first step is the last one that stands on an object
      obtain ⟨id, rfl⟩ := object_of_visited hvisited hread hrest
      obtain ⟨rfl, hget, -⟩ := get_of_course hinner hrest rfl
      have hlast : visited after (.object id) (step :: next :: rest) = [(id, step.name)] := by
        rw [visited_object hread, hrest]
      obtain ⟨hslot, hback⟩ := stored_at_object hbacked hlast hresult
      refine ⟨hslot, ?_⟩
      rw [get_cons_of_isTraversable hback (isTraversable_of_isContainer hchanged), hget]
    · obtain ⟨⟨slot, hlast, hafter⟩, hget⟩ :=
        ih hrest (hbacked.rest hread) (fresh_rest hfresh hread hrest) rfl
      obtain ⟨hsame, hback, hlast'⟩ := settled_step hbacked hfresh hread hchild hlast hafter
      obtain rfl := value_of_course hinner hrest rfl
      have hwritten : writeStep after value step changed = ⟨.ok value, after⟩ := by
        simp [writeStep, hback]
      rw [hwritten, get_cons_of_isTraversable hsame hchild]
      exact ⟨⟨slot, hlast', hafter⟩, hget⟩
  | @shared after value new child changed step next rest hread hchild hchanged hinner ih =>
    by_cases hrest : visited heap child (next :: rest) = []
    · -- without objects behind the first step its value stays a container
      rw [isContainer_of_course hinner hrest] at hchanged
      cases hchanged
    · obtain ⟨⟨slot, hlast, hafter⟩, hget⟩ :=
        ih hrest (hbacked.rest hread) (fresh_rest hfresh hread hrest) rfl
      obtain ⟨hsame, -, hlast'⟩ := settled_step hbacked hfresh hread hchild hlast hafter
      rw [get_cons_of_isTraversable hsame hchild]
      exact ⟨⟨slot, hlast', hafter⟩, hget⟩

/-- **A write through shared objects is not lost**, unless the path comes back to the
slot that it ends in: where every property on the path is backed by one slot, a write
that reports success is read back. -/
theorem getPath_setPath_shared (heap : Heap) (value new : Value) (path : String)
    (hbacked : Backed heap value (Path.steps path)) (hfresh : comesBack heap value path = false)
    {result : Value} {after : Heap} (hset : setPath heap value path new = ⟨.ok result, after⟩) :
    getPath after result path = .ok new := by
  have hcourse := course_set heap value (Path.steps path) new
  rw [show set heap value (Path.steps path) new = ⟨.ok result, after⟩ from hset] at hcourse
  by_cases hvisited : visited heap value (Path.steps path) = []
  · exact (get_of_course hcourse hvisited rfl).2.1 after
  · obtain rfl := value_of_course hcourse hvisited rfl
    exact (get_of_course_backed hcourse hvisited hbacked hfresh rfl).2

/-! ## Shelves that hold each other -/

/-- A class with one field. -/
def shelf : ClassDecl :=
  { ClassDecl.empty "Shelf" with
    fields := [⟨"held", .any, false, false, .slot "held", some ⟨"held", .any⟩⟩] }

/-- Shelves that hold the given values. -/
def shelves (held : List Value) : Heap :=
  ⟨fun _ => shelf, held.map fun value => ⟨⟨0, "Shelf"⟩, [("held", value)]⟩⟩

/-- A mapping with a reference to a shelf and a count. -/
def parcel (target : Nat) (count : Int64) : Value :=
  .map [("shelf", .object ⟨target⟩), ("count", .integer count)]

theorem steps_held_count : Path.steps "held.shelf.held.count" =
    [⟨"held", "held", none⟩, ⟨"shelf", "shelf", none⟩, ⟨"held", "held", none⟩,
      ⟨"count", "count", none⟩] := by rfl

theorem steps_held_held : Path.steps "held.held" =
    [⟨"held", "held", none⟩, ⟨"held", "held", none⟩] := by rfl

/-- Two shelves that refer to each other: the count of the second is changed from
the first. -/
theorem getPath_setPath_shared_pair :
    Backed (shelves [parcel 1 1, parcel 0 2]) (.object ⟨0⟩)
      (Path.steps "held.shelf.held.count") ∧
    comesBack (shelves [parcel 1 1, parcel 0 2]) (.object ⟨0⟩) "held.shelf.held.count" = false ∧
    setPath (shelves [parcel 1 1, parcel 0 2]) (.object ⟨0⟩) "held.shelf.held.count" (.integer 5) =
      ⟨.ok (.object ⟨0⟩), shelves [parcel 1 1, parcel 0 5]⟩ ∧
    getPath (shelves [parcel 1 1, parcel 0 5]) (.object ⟨0⟩) "held.shelf.held.count" =
      .ok (.integer 5) := by
  have hbacked : Backed (shelves [parcel 1 1, parcel 0 2]) (.object ⟨0⟩)
      (Path.steps "held.shelf.held.count") := by
    unfold Backed
    decide +kernel
  have hfresh : comesBack (shelves [parcel 1 1, parcel 0 2]) (.object ⟨0⟩)
      "held.shelf.held.count" = false := by decide +kernel
  have hset : setPath (shelves [parcel 1 1, parcel 0 2]) (.object ⟨0⟩) "held.shelf.held.count"
      (.integer 5) = ⟨.ok (.object ⟨0⟩), shelves [parcel 1 1, parcel 0 5]⟩ := by
    rw [setPath, steps_held_count]
    rfl
  exact ⟨hbacked, hfresh, hset, getPath_setPath_shared _ _ _ _ hbacked hfresh hset⟩

/-- **Writes that come back to the slot they end in.**  A shelf holds a mapping that
refers back to the shelf: the new count is stored, and then the old mapping is stored
back over it.  A shelf holds itself: the write puts a number in place of the reference
that the path goes through. -/
theorem lost_writes :
    (Backed (shelves [parcel 0 1]) (.object ⟨0⟩) (Path.steps "held.shelf.held.count") ∧
      setPath (shelves [parcel 0 1]) (.object ⟨0⟩) "held.shelf.held.count" (.integer 5) =
        ⟨.ok (.object ⟨0⟩), shelves [parcel 0 1]⟩ ∧
      getPath (shelves [parcel 0 1]) (.object ⟨0⟩) "held.shelf.held.count" = .ok (.integer 1)) ∧
    (Backed (shelves [.object ⟨0⟩]) (.object ⟨0⟩) (Path.steps "held.held") ∧
      setPath (shelves [.object ⟨0⟩]) (.object ⟨0⟩) "held.held" (.integer 5) =
        ⟨.ok (.object ⟨0⟩), shelves [.integer 5]⟩ ∧
      getPath (shelves [.integer 5]) (.object ⟨0⟩) "held.held" =
        .error (.deadEnd "held.held" "held")) := by
  unfold Backed setPath getPath
  rw [steps_held_count, steps_held_held]
  refine ⟨⟨?_, rfl, rfl⟩, ?_, rfl, rfl⟩
  · decide +kernel
  · decide +kernel

end DynamicSql.Navigation

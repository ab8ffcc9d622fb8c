import DynamicSql.Navigation.Divergence
import DynamicSql.Proofs.Navigation.Lens

/-!
# Writes that leave other paths alone

A write copies the mappings and lists on its way and stores them back changed.  What stands
beside the way is copied along: a path that parts from the way of the write reads what it
read before.  `getStep_setStep_of_part` says so of single steps, and
`get_of_course_of_diverge` of paths that meet no object, by induction on the course of the
write; `getPath_setPath_of_diverge` states it for values that are built from scalars, lists
and mappings alone.
-/

namespace DynamicSql.Navigation

open DynamicSql.Path (Step)

/-! ## Single steps -/

/-- Storing at an index does not change what is read at another index, unless both stand
for one position. -/
theorem indexInto_storeAt_of_ne {collection stored new : Value} {index other name : String}
    (h : storeAt collection index name new = .ok stored) (hne : index ≠ other)
    (hposition : ∀ n, position? index = some n → position? other ≠ some n) (label : String) :
    indexInto stored other label = indexInto collection other label := by
  cases collection with
  | map entries =>
    cases h
    rw [indexInto, indexInto, Entries.get?_put_of_ne entries new hne.symm]
  | list items =>
    rw [storeAt] at h
    split at h
    · rename_i n hn
      split at h
      · cases h
        have hitem : ∀ m, position? other = some m → (items.set n new)[m]? = items[m]? := by
          intro m hm
          have hmn : n ≠ m := by
            rintro rfl
            exact hposition n hn hm
          exact List.getElem?_set_ne hmn
        rw [indexInto, indexInto]
        cases hother : position? other with
        | none => rfl
        | some m => rw [Option.bind_some, Option.bind_some, hitem m hother]
      · cases h
    · cases h
  | _ => cases h

/-- Storing a property does not change the others. -/
theorem getProperty_setProperty_of_ne {heap after : Heap} {value result new : Value}
    {name other : String} (hv : HeldByValue value)
    (h : setProperty heap value name new = .ok (result, after)) (hne : name ≠ other) :
    getProperty heap result other = getProperty heap value other := by
  cases value with
  | object id => exact absurd rfl (hv id)
  | map entries =>
    cases h
    rw [getProperty, getProperty, Entries.get?_put_of_ne entries new hne.symm]
  | _ => cases h

/-- Storing at a step of a value held by value does not change what a step reads that
parts from it. -/
theorem getStep_setStep_of_part {heap after : Heap} {value result new : Value}
    {step other : Step} (hv : HeldByValue value)
    (h : setStep heap value step new = .ok (result, after)) (hpart : Part step other) :
    getStep heap result other = getStep heap value other := by
  cases hpart with
  | names hstep hother hne =>
    have hproperty : getProperty heap result other.name = getProperty heap value other.name := by
      rcases setStep_eq_ok_iff.1 h with ⟨_, -, hname, -⟩ | ⟨_, _, _, -, -, -, -, hset⟩ | ⟨-, hset⟩
      · exact absurd hname hstep
      · exact getProperty_setProperty_of_ne hv hset hne
      · exact getProperty_setProperty_of_ne hv hset hne
    unfold getStep indexed
    rw [if_neg hother, if_neg hother, hproperty]
  | @indexes index otherIndex hname hindex hother hne hposition =>
    unfold getStep indexed
    rw [hother, ← hname]
    rcases setStep_eq_ok_iff.1 h with ⟨_, hfound, hempty, -, hstored⟩ |
      ⟨_, collection, stored, hfound, hnamed, hcollection, hstored, hset⟩ | ⟨hfound, -⟩
    · rw [hindex, Option.some.injEq] at hfound
      subst hfound
      simp only [hempty, if_true, bind, Except.bind]
      exact indexInto_storeAt_of_ne hstored hne hposition ""
    · rw [hindex, Option.some.injEq] at hfound
      subst hfound
      have hresult : getProperty heap result step.name = .ok stored :=
        (setProperty_heldByValue hv hset).2.2 heap
      simp only [hnamed, if_false, hresult, hcollection, bind, Except.bind]
      exact indexInto_storeAt_of_ne hstored hne hposition step.name
    · rw [hindex] at hfound
      cases hfound

/-! ## Paths -/

/-- The path that parts from another one has a step. -/
theorem Diverge.exists_cons {steps others : List Step} (h : Diverge steps others) :
    ∃ other more, others = other :: more := by
  cases h with
  | here => exact ⟨_, _, rfl⟩
  | behind => exact ⟨_, _, rfl⟩

/-- A path that starts with a step that reads the same goes on the same. -/
theorem get_cons_congr {heap : Heap} {value other : Value} {step : Step}
    (h : getStep heap other step = getStep heap value step) (rest : List Step) :
    get heap other (step :: rest) = get heap value (step :: rest) := by
  cases rest with
  | nil => exact h
  | cons next rest => rw [get, get, h]

/-- A path that parts at its first step from a step that is written reads what it read. -/
theorem get_of_writeStep_of_part {heap : Heap} {value result new : Value} {step other : Step}
    (hv : HeldByValue value) (h : (writeStep heap value step new).outcome = .ok result)
    (hpart : Part step other) (rest : List Step) :
    get heap result (other :: rest) = get heap value (other :: rest) :=
  get_cons_congr (getStep_setStep_of_part hv (setStep_of_writeStep h) hpart) rest

/-- **A write leaves the paths alone that part from its own**, as long as it meets no
object.  Where the paths still agree the written path goes on to a value that is there
already, since something other than null is read behind it. -/
theorem get_of_course_of_diverge {heap : Heap} {value new item : Value}
    {steps others : List Step} {written : Written} (hcourse : Course heap value steps new written)
    (hvisited : visited heap value steps = []) (hdiverge : Diverge steps others)
    (hread : get heap value others = .ok item) (hitem : item.isNull = false)
    {result : Value} (hresult : written.outcome = .ok result) :
    get heap result others = .ok item := by
  induction hcourse generalizing others result with
  | replaced => cases hdiverge
  | blocked | createdFailed | innerFailed => cases hresult
  | nothing =>
    cases hresult
    exact hread
  | last =>
    cases hdiverge with
    | here hpart =>
      rw [get_of_writeStep_of_part (heldByValue_of_visited hvisited) hresult hpart, hread]
    | behind _ hrest => cases hrest
  | @created after _ _ _ _ _ _ _ hnull hstart hinner ih =>
    obtain rfl : after = heap := heap_of_course hinner (visited_of_empty hstart _)
    cases hdiverge with
    | here hpart =>
      rw [get_of_writeStep_of_part (heldByValue_of_visited hvisited) hresult hpart, hread]
    | behind _ hrest =>
      -- behind null only null is read
      obtain ⟨other, others, rfl⟩ := hrest.exists_cons
      rw [get_cons_null hnull] at hread
      cases hread
      cases hitem
  | @storedBack after _ _ _ _ _ _ _ hchild htrav hchanged hset hinner ih =>
    have hv := heldByValue_of_visited hvisited
    rw [visited_cons_of_heldByValue hv hchild] at hvisited
    obtain rfl : after = heap := heap_of_course hinner hvisited
    cases hdiverge with
    | here hpart => rw [get_of_writeStep_of_part hv hresult hpart, hread]
    | behind _ hrest =>
      obtain ⟨other, others, rfl⟩ := hrest.exists_cons
      rw [get_cons_of_isTraversable hchild htrav] at hread
      have hback := (getStep_setStep hv (setStep_of_writeStep hresult)).2.2 after
      rw [get_cons_of_isTraversable hback (isTraversable_of_isContainer hchanged)]
      exact ih hvisited hrest hread rfl
  | shared hchild htrav hchanged hinner ih =>
    -- without objects the value of the first step is a container, and stays one
    rw [visited_cons_of_heldByValue (heldByValue_of_visited hvisited) hchild] at hvisited
    rw [isContainer_of_course hinner hvisited] at hchanged
    cases hchanged

/-- **A write into a plain value does not disturb other paths.**  What was read before at a
path that parts from the written one, unless it was null, is read there afterwards. -/
theorem getPath_setPath_of_diverge (heap after : Heap) (value new item result : Value)
    (path other : String) (hplain : value.isPlain = true)
    (hset : setPath heap value path new = ⟨.ok result, after⟩)
    (hread : getPath heap value other = .ok item) (hitem : item.isNull = false)
    (hdiverge : Diverge (Path.steps path) (Path.steps other)) :
    getPath after result other = .ok item := by
  have hcourse := course_set heap value (Path.steps path) new
  have hvisited := visited_of_isPlain heap hplain (Path.steps path)
  rw [show set heap value (Path.steps path) new = ⟨.ok result, after⟩ from hset] at hcourse
  obtain rfl : after = heap := heap_of_course hcourse hvisited
  exact get_of_course_of_diverge hcourse hvisited hdiverge hread hitem rfl

/-- A list of two counted lines, with a note beside it. -/
def twoLines (count : Value) : Value :=
  .map [("lines", .list [.map [("count", count)], .map [("count", .integer 7)]]),
    ("note", .string "n")]

/-- A count with a unit is created in the first line; the second line and the note are
read as before. -/
theorem getPath_setPath_of_diverge_twoLines :
    setPath .empty (twoLines .null) "lines[ 0 ].count.unit" (.string "kg") =
      ⟨.ok (twoLines (.map [("unit", .string "kg")])), .empty⟩ ∧
    getPath .empty (twoLines (.map [("unit", .string "kg")])) "lines[01].count" =
      .ok (.integer 7) ∧
    getPath .empty (twoLines (.map [("unit", .string "kg")])) "note" = .ok (.string "n") := by
  have hplain : (twoLines .null).isPlain = true := by decide
  have hset : setPath .empty (twoLines .null) "lines[ 0 ].count.unit" (.string "kg") =
      ⟨.ok (twoLines (.map [("unit", .string "kg")])), .empty⟩ := rfl
  have hsteps : Path.steps "lines[ 0 ].count.unit" =
      [⟨"lines[ 0 ]", "lines", some " 0 "⟩, ⟨"count", "count", none⟩, ⟨"unit", "unit", none⟩] := rfl
  have hsecond : Path.steps "lines[01].count" =
      [⟨"lines[01]", "lines", some "01"⟩, ⟨"count", "count", none⟩] := rfl
  have hlines : Diverge (Path.steps "lines[ 0 ].count.unit") (Path.steps "lines[01].count") := by
    rw [hsteps, hsecond]
    refine .here (.indexes rfl rfl rfl (by decide) ?_)
    intro n hn
    obtain rfl : 0 = n := Option.some.inj (hn : some 0 = some n)
    exact (by decide : some 1 ≠ some 0)
  have hnote : Diverge (Path.steps "lines[ 0 ].count.unit") (Path.steps "note") := by
    rw [hsteps]
    exact .here (.names (by decide) (by decide) (by decide))
  refine ⟨hset, ?_, ?_⟩
  · exact getPath_setPath_of_diverge _ _ _ _ _ _ _ _ hplain hset rfl rfl hlines
  · exact getPath_setPath_of_diverge _ _ _ _ _ _ _ _ hplain hset rfl rfl hnote

end DynamicSql.Navigation

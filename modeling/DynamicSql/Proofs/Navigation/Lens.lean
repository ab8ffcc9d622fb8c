import DynamicSql.Proofs.Navigation.Course

/-!
# Reading and writing by value

On values without host objects, reading and writing along a path obey the laws of
a lens: what was written is read back (`get_of_course`), and writing what was
read changes nothing (`set_of_get`).  Both are proved for every path that meets
no object, whatever is written, and `path_lens_laws` states them for values that
are built from scalars, lists and mappings alone.
-/

namespace DynamicSql.Navigation

open DynamicSql.Path (Step)

/-! ## Paths that meet no object -/

/-- A write that meets no object leaves the heap alone, and what it wrote is read
back, whatever the heap. -/
theorem get_of_course {heap : Heap} {value new : Value} {steps : List Step} {written : Written}
    (hcourse : Course heap value steps new written) (hvisited : visited heap value steps = [])
    {result : Value} (hresult : written.outcome = .ok result) :
    written.heap = heap ∧ (∀ other, get other result steps = .ok new) ∧
      (steps ≠ [] → result.isContainer = true) := by
  induction hcourse generalizing result with
  | replaced =>
    cases hresult
    exact ⟨rfl, fun _ => rfl, fun h => absurd rfl h⟩
  | last =>
    obtain ⟨hheap, hcontainer, hread⟩ :=
      getStep_setStep (heldByValue_of_visited hvisited) (setStep_of_writeStep hresult)
    exact ⟨hheap, hread, fun _ => hcontainer⟩
  | blocked => cases hresult
  | nothing hread =>
    cases hresult
    have hv := heldByValue_of_visited hvisited
    exact ⟨rfl, fun other => get_cons_null (getStep_heldByValue hv hread other),
      fun _ => isContainer_of_getStep hv hread⟩
  | created hread hstart hinner ih =>
    obtain ⟨rfl, hget, hcontainer⟩ := ih (visited_of_empty hstart _) rfl
    obtain ⟨hheap, hresultc, hback⟩ :=
      getStep_setStep (heldByValue_of_visited hvisited) (setStep_of_writeStep hresult)
    have htrav := isTraversable_of_isContainer (hcontainer (by simp))
    refine ⟨hheap, fun other => ?_, fun _ => hresultc⟩
    rw [get_cons_of_isTraversable (hback other) htrav, hget other]
  | createdFailed => cases hresult
  | storedBack hread hchild hchanged hset hinner ih =>
    have hv := heldByValue_of_visited hvisited
    rw [visited_cons_of_heldByValue hv hread] at hvisited
    obtain ⟨rfl, hget, -⟩ := ih hvisited rfl
    obtain ⟨hheap, hresultc, hback⟩ := getStep_setStep hv (setStep_of_writeStep hresult)
    refine ⟨hheap, fun other => ?_, fun _ => hresultc⟩
    rw [get_cons_of_isTraversable (hback other) (isTraversable_of_isContainer hchanged), hget other]
  | shared hread hchild hchanged hinner ih =>
    -- without objects the value of the first step is a container, and stays one
    rw [visited_cons_of_heldByValue (heldByValue_of_visited hvisited) hread] at hvisited
    obtain ⟨-, -, hcontainer⟩ := ih hvisited rfl
    rw [hcontainer (by simp)] at hchanged
    cases hchanged
  | innerFailed => cases hresult

/-- Along a path that meets no object a write behind a value leaves a mapping or a list. -/
theorem isContainer_of_course {heap after : Heap} {value new result : Value} {step : Step}
    {rest : List Step} (hcourse : Course heap value (step :: rest) new ⟨.ok result, after⟩)
    (hvisited : visited heap value (step :: rest) = []) : result.isContainer = true :=
  (get_of_course hcourse hvisited rfl).2.2 (List.cons_ne_nil step rest)

/-- Writing what was read, along a path that meets no object, changes nothing. -/
theorem set_of_get {heap : Heap} {value item : Value} {steps : List Step}
    (hvisited : visited heap value steps = []) (hread : get heap value steps = .ok item)
    (hitem : item.isNull = false) : set heap value steps item = ⟨.ok value, heap⟩ := by
  induction steps generalizing value with
  | nil =>
    cases hread
    rfl
  | cons step rest ih =>
    have hv := heldByValue_of_visited hvisited
    cases rest with
    | nil => simp [set, writeStep, setStep_getStep hv hread hitem]
    | cons next rest =>
      obtain ⟨child, hchild, htrav, hrest⟩ := get_cons_inv hread hitem
      rw [visited_cons_of_heldByValue hv hchild] at hvisited
      have hnull := isNull_of_isTraversable htrav
      have hcontainer : child.isContainer = true := by
        rcases traversable_cases htrav with ⟨id, rfl⟩ | h
        · exact absurd rfl (heldByValue_of_visited hvisited id)
        · exact h
      have hback := setStep_getStep hv hchild hnull heap
      simp [set, hchild, hnull, htrav, ih hvisited hrest, hcontainer, writeStep, hback]

/-! ## Plain values -/

theorem isPlain_of_get? {entries : Entries Value} {name : String} {item : Value}
    (hplain : Value.entriesPlain entries = true) (h : Entries.get? entries name = some item) :
    item.isPlain = true := by
  induction entries with
  | nil => simp at h
  | cons entry rest ih =>
    obtain ⟨key, value⟩ := entry
    simp only [Value.entriesPlain, Bool.and_eq_true] at hplain
    by_cases hkey : key = name
    · rw [Entries.get?, if_pos hkey] at h
      cases h
      exact hplain.1
    · rw [Entries.get?, if_neg hkey] at h
      exact ih hplain.2 h

theorem isPlain_of_getElem? {items : List Value} {position : Nat} {item : Value}
    (hplain : Value.arePlain items = true) (h : items[position]? = some item) :
    item.isPlain = true := by
  induction items generalizing position with
  | nil => simp at h
  | cons first rest ih =>
    simp only [Value.arePlain, Bool.and_eq_true] at hplain
    cases position with
    | zero =>
      cases h
      exact hplain.1
    | succ position => exact ih hplain.2 (by simpa using h)

theorem heldByValue_of_isPlain {value : Value} (h : value.isPlain = true) : HeldByValue value := by
  rintro id rfl
  simp [Value.isPlain] at h

theorem isPlain_getProperty {heap : Heap} {value item : Value} {name : String}
    (hplain : value.isPlain = true) (h : getProperty heap value name = .ok item) :
    item.isPlain = true := by
  cases value <;> simp only [getProperty, Except.ok.injEq, reduceCtorEq] at h
  case object id => exact absurd rfl (heldByValue_of_isPlain hplain id)
  case map entries =>
    cases hfound : Entries.get? entries name with
    | none =>
      simp only [hfound, Option.getD_none] at h
      exact h ▸ rfl
    | some found =>
      simp only [hfound, Option.getD_some] at h
      exact h ▸ isPlain_of_get? hplain hfound

theorem isPlain_indexInto {collection item : Value} {index name : String}
    (hplain : collection.isPlain = true) (h : indexInto collection index name = .ok item) :
    item.isPlain = true := by
  cases collection <;> simp only [indexInto, Except.ok.injEq, reduceCtorEq] at h
  case map entries =>
    have hentry : getProperty .empty (.map entries) index = .ok item := by rw [getProperty, h]
    exact isPlain_getProperty hplain hentry
  case list items =>
    split at h
    · rename_i found hfound
      cases h
      obtain ⟨position, -, hget⟩ := Option.bind_eq_some_iff.1 hfound
      exact isPlain_of_getElem? hplain hget
    · cases h

theorem isPlain_getStep {heap : Heap} {value item : Value} {step : Step}
    (hplain : value.isPlain = true) (h : getStep heap value step = .ok item) :
    item.isPlain = true := by
  rcases getStep_eq_ok_iff.1 h with ⟨_, -, -, hread⟩ | ⟨_, _, -, -, hcollection, hread⟩ | ⟨-, hread⟩
  · exact isPlain_indexInto hplain hread
  · exact isPlain_indexInto (isPlain_getProperty hplain hcollection) hread
  · exact isPlain_getProperty hplain hread

/-- A path into a plain value meets no object. -/
theorem visited_of_isPlain (heap : Heap) {value : Value} (hplain : value.isPlain = true)
    (steps : List Step) : visited heap value steps = [] := by
  induction steps generalizing value with
  | nil => rfl
  | cons step rest ih =>
    have hv := heldByValue_of_isPlain hplain
    cases h : getStep heap value step with
    | error e =>
      cases value with
      | object id => exact absurd rfl (hv id)
      | _ => simp [visited, h]
    | ok child => rw [visited_cons_of_heldByValue hv h, ih (isPlain_getStep hplain h)]

/-! ## The laws -/

/-- **Paths into plain values are lenses.**  What was written at a path is read
back there, and writing what is there, unless it is null, is possible and leaves
the value as it was, down to the order of its names. -/
theorem path_lens_laws (heap : Heap) (value new : Value) (path : String)
    (hplain : value.isPlain = true) :
    (∀ result after, setPath heap value path new = ⟨.ok result, after⟩ →
      getPath after result path = .ok new) ∧
    (getPath heap value path = .ok new → new.isNull = false →
      setPath heap value path new = ⟨.ok value, heap⟩) := by
  have hvisited := visited_of_isPlain heap hplain (Path.steps path)
  constructor
  · intro result after hset
    have hcourse := course_set heap value (Path.steps path) new
    rw [show set heap value (Path.steps path) new = ⟨.ok result, after⟩ from hset] at hcourse
    exact (get_of_course hcourse hvisited rfl).2.1 after
  · exact set_of_get hvisited

/-- An order with one line, which has an article, no count yet, and a price. -/
def order (sku : String) (count : Value) : Value :=
  .map [("lines", .list [.map [("sku", .string sku), ("count", count), ("price", .integer 5)]])]

/-- A count with a unit is created behind null, and the article is left as it is. -/
theorem path_lens_laws_order :
    (order "A" .null).isPlain = true ∧
    setPath .empty (order "A" .null) "lines[ 0 ].count.unit" (.string "kg") =
      ⟨.ok (order "A" (.map [("unit", .string "kg")])), .empty⟩ ∧
    getPath .empty (order "A" (.map [("unit", .string "kg")])) "lines[ 0 ].count.unit" =
      .ok (.string "kg") ∧
    setPath .empty (order "A" .null) "lines[0].sku" (.string "A") =
      ⟨.ok (order "A" .null), .empty⟩ := by
  have hplain : (order "A" .null).isPlain = true := by decide
  refine ⟨hplain, rfl, ?_, ?_⟩
  · exact (path_lens_laws .empty _ _ "lines[ 0 ].count.unit" hplain).1 _ .empty rfl
  · exact (path_lens_laws .empty _ _ "lines[0].sku" hplain).2 rfl rfl

end DynamicSql.Navigation

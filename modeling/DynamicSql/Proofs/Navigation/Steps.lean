import DynamicSql.Navigation.Visited

/-!
# Single steps of a path

What a path reads and stores at one step, apart from the rest of the path: on a
value held by value, what was stored is read back, and storing what was read
changes nothing; an object is read and written through its properties and stays
the same object.
-/

namespace DynamicSql.Navigation

open DynamicSql.Path (Step)

/-! ## Values held by value -/

/-- A value that is not a reference to a host object. -/
def HeldByValue (value : Value) : Prop := ∀ id, value ≠ .object id

theorem heldByValue_null : HeldByValue .null := fun _ h => nomatch h

theorem heldByValue_map (entries : Entries Value) : HeldByValue (.map entries) :=
  fun _ h => nomatch h

theorem heldByValue_list (items : List Value) : HeldByValue (.list items) :=
  fun _ h => nomatch h

theorem heldByValue_or_object (value : Value) : HeldByValue value ∨ ∃ id, value = .object id := by
  cases value with
  | object id => exact .inr ⟨id, rfl⟩
  | _ => exact .inl fun _ h => nomatch h

/-- A value that a path can go on behind is an object or held by value. -/
theorem traversable_cases {value : Value} (h : isTraversable value = true) :
    (∃ id, value = .object id) ∨ value.isContainer = true := by
  cases value <;> simp_all [isTraversable, Value.isContainer]

theorem isTraversable_of_isContainer {value : Value} (h : value.isContainer = true) :
    isTraversable value = true := by
  cases value <;> simp_all [isTraversable, Value.isContainer]

theorem isNull_of_isTraversable {value : Value} (h : isTraversable value = true) :
    value.isNull = false := by
  cases value <;> simp_all [isTraversable, Value.isNull]

theorem isNull_of_isContainer {value : Value} (h : value.isContainer = true) :
    value.isNull = false :=
  isNull_of_isTraversable (isTraversable_of_isContainer h)

/-! ## Indexes and properties -/

theorem indexInto_storeAt {collection stored new : Value} {index name : String}
    (h : storeAt collection index name new = .ok stored) :
    stored.isContainer = true ∧ ∀ other, indexInto stored index other = .ok new := by
  unfold storeAt at h
  split at h
  · cases h
    simp [indexInto, Value.isContainer]
  · split at h
    · rename_i position hposition
      split at h
      · cases h
        simp_all [indexInto, Value.isContainer]
      · cases h
    · cases h
  · cases h

/-- Storing what is already there changes nothing. -/
theorem storeAt_indexInto {collection item : Value} {index name : String}
    (h : indexInto collection index name = .ok item) (hitem : item.isNull = false) :
    storeAt collection index name item = .ok collection := by
  unfold indexInto at h
  split at h
  · rename_i entries
    cases hfound : Entries.get? entries index with
    | none => simp [hfound] at h; subst h; simp [Value.isNull] at hitem
    | some found =>
      simp only [hfound, Option.getD_some, Except.ok.injEq] at h
      subst h
      rw [storeAt, Entries.put_eq_self hfound]
  · rename_i items
    split at h
    · rename_i found hfound
      cases h
      obtain ⟨position, hposition, hget⟩ := Option.bind_eq_some_iff.1 hfound
      obtain ⟨hlt, heq⟩ := List.getElem?_eq_some_iff.1 hget
      simp only [storeAt, hposition, hlt, if_true]
      rw [← heq, List.set_getElem_self]
    · cases h
  · cases h

/-- Where an index can be read, it can be stored. -/
theorem storeAt_of_indexInto {collection item : Value} {index name : String}
    (h : indexInto collection index name = .ok item) (new : Value) :
    ∃ stored, storeAt collection index name new = .ok stored := by
  unfold indexInto at h
  split at h
  · exact ⟨_, rfl⟩
  · rename_i items
    split at h
    · rename_i found hfound
      obtain ⟨position, hposition, hget⟩ := Option.bind_eq_some_iff.1 hfound
      obtain ⟨hlt, -⟩ := List.getElem?_eq_some_iff.1 hget
      exact ⟨.list (items.set position new), by simp only [storeAt, hposition, hlt, if_true]⟩
    · cases h
  · cases h

theorem setProperty_heldByValue {heap after : Heap} {value result new : Value} {name : String}
    (hv : HeldByValue value) (h : setProperty heap value name new = .ok (result, after)) :
    after = heap ∧ result.isContainer = true ∧
      ∀ other, getProperty other result name = .ok new := by
  cases value <;> simp only [setProperty, Except.ok.injEq, Prod.mk.injEq, reduceCtorEq] at h
  case object id => exact absurd rfl (hv id)
  case map entries =>
    obtain ⟨rfl, rfl⟩ := h
    simp [getProperty, Value.isContainer]

theorem setProperty_getProperty {heap : Heap} {value item : Value} {name : String}
    (hv : HeldByValue value) (h : getProperty heap value name = .ok item)
    (hitem : item.isNull = false) (other : Heap) :
    setProperty other value name item = .ok (value, other) := by
  cases value <;> simp only [getProperty, Except.ok.injEq, reduceCtorEq] at h
  case object id => exact absurd rfl (hv id)
  case map entries =>
    cases hfound : Entries.get? entries name with
    | none => simp [hfound] at h; subst h; simp [Value.isNull] at hitem
    | some found =>
      simp only [hfound, Option.getD_some] at h
      subst h
      rw [setProperty, Entries.put_eq_self hfound]

/-- Reading a property of a value held by value does not look at the heap. -/
theorem getProperty_heldByValue {heap : Heap} {value item : Value} {name : String}
    (hv : HeldByValue value) (h : getProperty heap value name = .ok item) (other : Heap) :
    getProperty other value name = .ok item := by
  cases value <;> simp_all [getProperty]
  case object id => exact absurd rfl (hv id)

/-- What is read through an index is held by value. -/
theorem isContainer_of_indexInto {collection item : Value} {index name : String}
    (h : indexInto collection index name = .ok item) : collection.isContainer = true := by
  cases collection <;> simp_all [indexInto, Value.isContainer]

/-- Only mappings have properties among the values held by value. -/
theorem isContainer_of_getProperty {heap : Heap} {value item : Value} {name : String}
    (hv : HeldByValue value) (h : getProperty heap value name = .ok item) :
    value.isContainer = true := by
  cases value with
  | object id => exact absurd rfl (hv id)
  | map entries => rfl
  | _ => cases h

/-- Where a property of a value held by value can be read, it can be stored. -/
theorem setProperty_of_getProperty {heap : Heap} {value item : Value} {name : String}
    (hv : HeldByValue value) (h : getProperty heap value name = .ok item) (other : Heap)
    (new : Value) : ∃ result, setProperty other value name new = .ok (result, other) := by
  cases value with
  | object id => exact absurd rfl (hv id)
  | map entries => exact ⟨_, rfl⟩
  | _ => cases h

/-! ## Laws of a single step -/

/-- What is read at one step: an index of the value itself, an index of one of its
properties, or a property. -/
theorem getStep_eq_ok_iff {heap : Heap} {value item : Value} {step : Step} :
    getStep heap value step = .ok item ↔
      (∃ index, step.index = some index ∧ step.name = "" ∧ indexInto value index "" = .ok item) ∨
      (∃ index collection, step.index = some index ∧ step.name ≠ "" ∧
        getProperty heap value step.name = .ok collection ∧
        indexInto collection index step.name = .ok item) ∨
      (step.index = none ∧ getProperty heap value step.name = .ok item) := by
  unfold getStep indexed
  cases step.index with
  | none => simp
  | some index =>
    by_cases hname : step.name = ""
    · simp [hname, bind, Except.bind]
    · cases getProperty heap value step.name <;> simp [hname, bind, Except.bind]

/-- What is stored at one step: an index of the value itself, an index of one of its
properties, or a property. -/
theorem setStep_eq_ok_iff {heap after : Heap} {value result new : Value} {step : Step} :
    setStep heap value step new = .ok (result, after) ↔
      (∃ index, step.index = some index ∧ step.name = "" ∧ after = heap ∧
        storeAt value index "" new = .ok result) ∨
      (∃ index collection stored, step.index = some index ∧ step.name ≠ "" ∧
        getProperty heap value step.name = .ok collection ∧
        storeAt collection index step.name new = .ok stored ∧
        setProperty heap value step.name stored = .ok (result, after)) ∨
      (step.index = none ∧ setProperty heap value step.name new = .ok (result, after)) := by
  constructor
  · intro h
    unfold setStep indexed at h
    split at h
    · rename_i index hindex
      by_cases hname : step.name = ""
      · simp only [hname, if_true, bind, Except.bind] at h
        split at h
        · cases h
        · rename_i stored hstored
          cases h
          exact .inl ⟨index, hindex, hname, rfl, hstored⟩
      · simp only [hname, if_false, bind, Except.bind] at h
        split at h
        · cases h
        · rename_i collection hcollection
          split at h
          · cases h
          · rename_i stored hstored
            exact .inr (.inl ⟨index, collection, stored, hindex, hname, hcollection, hstored, h⟩)
    · rename_i hindex
      exact .inr (.inr ⟨hindex, h⟩)
  · rintro (⟨index, hindex, hname, rfl, hstored⟩ |
      ⟨index, collection, stored, hindex, hname, hcollection, hstored, hset⟩ | ⟨hindex, hset⟩)
    · simp [setStep, indexed, hindex, hname, hstored, bind, Except.bind]
    · simp [setStep, indexed, hindex, hname, hcollection, hstored, hset, bind, Except.bind]
    · simp [setStep, hindex, hset]

/-- Only a mapping or a list has steps among the values held by value. -/
theorem isContainer_of_getStep {heap : Heap} {value item : Value} {step : Step}
    (hv : HeldByValue value) (h : getStep heap value step = .ok item) :
    value.isContainer = true := by
  rcases getStep_eq_ok_iff.1 h with ⟨_, -, -, hread⟩ | ⟨_, _, -, -, hcollection, -⟩ | ⟨-, hread⟩
  · exact isContainer_of_indexInto hread
  · exact isContainer_of_getProperty hv hcollection
  · exact isContainer_of_getProperty hv hread

theorem getStep_heldByValue {heap : Heap} {value item : Value} {step : Step}
    (hv : HeldByValue value) (h : getStep heap value step = .ok item) (other : Heap) :
    getStep other value step = .ok item := by
  rw [getStep_eq_ok_iff] at h ⊢
  rcases h with hindex | ⟨index, collection, hindex, hname, hcollection, hread⟩ | ⟨hindex, hread⟩
  · exact .inl hindex
  · exact .inr (.inl ⟨index, collection, hindex, hname,
      getProperty_heldByValue hv hcollection other, hread⟩)
  · exact .inr (.inr ⟨hindex, getProperty_heldByValue hv hread other⟩)

/-- A step stored in a value held by value is read back, whatever the heap. -/
theorem getStep_setStep {heap after : Heap} {value result new : Value} {step : Step}
    (hv : HeldByValue value) (h : setStep heap value step new = .ok (result, after)) :
    after = heap ∧ result.isContainer = true ∧
      ∀ other, getStep other result step = .ok new := by
  simp only [getStep_eq_ok_iff]
  rcases setStep_eq_ok_iff.1 h with ⟨index, hindex, hname, rfl, hstored⟩ |
    ⟨index, collection, stored, hindex, hname, -, hstored, hset⟩ | ⟨hindex, hset⟩
  · obtain ⟨hcontainer, hread⟩ := indexInto_storeAt hstored
    exact ⟨rfl, hcontainer, fun _ => .inl ⟨index, hindex, hname, hread ""⟩⟩
  · obtain ⟨rfl, hcontainer, hget⟩ := setProperty_heldByValue hv hset
    have hread := (indexInto_storeAt hstored).2 step.name
    exact ⟨rfl, hcontainer, fun other =>
      .inr (.inl ⟨index, stored, hindex, hname, hget other, hread⟩)⟩
  · obtain ⟨rfl, hcontainer, hget⟩ := setProperty_heldByValue hv hset
    exact ⟨rfl, hcontainer, fun other => .inr (.inr ⟨hindex, hget other⟩)⟩

/-- Storing what a step reads from a value held by value changes nothing. -/
theorem setStep_getStep {heap : Heap} {value item : Value} {step : Step}
    (hv : HeldByValue value) (h : getStep heap value step = .ok item)
    (hitem : item.isNull = false) (other : Heap) :
    setStep other value step item = .ok (value, other) := by
  rw [setStep_eq_ok_iff]
  rcases getStep_eq_ok_iff.1 h with ⟨index, hindex, hname, hread⟩ |
    ⟨index, collection, hindex, hname, hcollection, hread⟩ | ⟨hindex, hread⟩
  · exact .inl ⟨index, hindex, hname, rfl, storeAt_indexInto hread hitem⟩
  · have hnull := isNull_of_isContainer (isContainer_of_indexInto hread)
    exact .inr (.inl ⟨index, collection, collection, hindex, hname,
      getProperty_heldByValue hv hcollection other, storeAt_indexInto hread hitem,
      setProperty_getProperty hv hcollection hnull other⟩)
  · exact .inr (.inr ⟨hindex, setProperty_getProperty hv hread hitem other⟩)

/-- Where a step of a value held by value can be read, it can be stored. -/
theorem setStep_of_getStep {heap : Heap} {value item : Value} {step : Step}
    (hv : HeldByValue value) (h : getStep heap value step = .ok item) (other : Heap)
    (new : Value) : ∃ result, setStep other value step new = .ok (result, other) := by
  simp only [setStep_eq_ok_iff]
  rcases getStep_eq_ok_iff.1 h with ⟨index, hindex, hname, hread⟩ |
    ⟨index, collection, hindex, hname, hcollection, hread⟩ | ⟨hindex, hread⟩
  · obtain ⟨result, hstored⟩ := storeAt_of_indexInto hread new
    exact ⟨result, .inl ⟨index, hindex, hname, trivial, hstored⟩⟩
  · obtain ⟨stored, hstored⟩ := storeAt_of_indexInto hread new
    obtain ⟨result, hset⟩ := setProperty_of_getProperty hv hcollection other stored
    exact ⟨result, .inr (.inl ⟨index, collection, stored, hindex, hname,
      getProperty_heldByValue hv hcollection other, hstored, hset⟩)⟩
  · obtain ⟨result, hset⟩ := setProperty_of_getProperty hv hread other new
    exact ⟨result, .inr (.inr ⟨hindex, hset⟩)⟩

/-- An object stays the same object when one of its properties is stored. -/
theorem setStep_object {heap after : Heap} {id : ObjectId} {result new : Value} {step : Step}
    (h : setStep heap (.object id) step new = .ok (result, after)) : result = .object id := by
  have hproperty : ∀ name stored, setProperty heap (.object id) name stored = .ok (result, after) →
      result = .object id := by
    intro name stored hset
    simp only [setProperty, Except.map] at hset
    split at hset <;> cases hset
    rfl
  rcases setStep_eq_ok_iff.1 h with ⟨_, -, -, -, hstored⟩ | ⟨_, _, _, -, -, -, -, hset⟩ | ⟨-, hset⟩
  · simp only [storeAt, reduceCtorEq] at hstored
  · exact hproperty _ _ hset
  · exact hproperty _ _ hset

/-! ## Reading on behind a step -/

theorem get_cons_cons (heap : Heap) (value : Value) (step next : Step) (rest : List Step) :
    get heap value (step :: next :: rest) = getStep heap value step >>= fun child =>
      if child.isNull then .ok .null
      else if isTraversable child then get heap child (next :: rest)
      else .error (.deadEnd (Path.text (step :: next :: rest)) step.text) := rfl

theorem get_cons_of_isTraversable {heap : Heap} {value child : Value} {step next : Step}
    {rest : List Step} (h : getStep heap value step = .ok child)
    (hchild : isTraversable child = true) :
    get heap value (step :: next :: rest) = get heap child (next :: rest) := by
  simp [get_cons_cons, h, bind, Except.bind, isNull_of_isTraversable hchild, hchild]

theorem get_cons_null {heap : Heap} {value : Value} {step next : Step} {rest : List Step}
    (h : getStep heap value step = .ok .null) :
    get heap value (step :: next :: rest) = .ok .null := by
  simp [get_cons_cons, h, bind, Except.bind, Value.isNull]

/-- What is read behind a first step is read from the value of that step. -/
theorem get_cons_inv {heap : Heap} {value item : Value} {step next : Step} {rest : List Step}
    (h : get heap value (step :: next :: rest) = .ok item) (hitem : item.isNull = false) :
    ∃ child, getStep heap value step = .ok child ∧ isTraversable child = true ∧
      get heap child (next :: rest) = .ok item := by
  simp only [get_cons_cons, bind, Except.bind] at h
  split at h
  · cases h
  · rename_i child hread
    split at h
    · cases h
      simp [Value.isNull] at hitem
    · split at h
      · rename_i htrav
        exact ⟨child, hread, htrav, h⟩
      · cases h

/-! ## The objects on a path -/

theorem visited_cons (heap : Heap) (value : Value) (step : Step) (rest : List Step) :
    visited heap value (step :: rest) =
      let further := match getStep heap value step with
        | .ok child => visited heap child rest
        | .error _ => []
      match value with
      | .object id => (id, step.name) :: further
      | _ => further := rfl

theorem visited_cons_of_heldByValue {heap : Heap} {value child : Value} {step : Step}
    {rest : List Step} (hv : HeldByValue value) (h : getStep heap value step = .ok child) :
    visited heap value (step :: rest) = visited heap child rest := by
  cases value with
  | object id => exact absurd rfl (hv id)
  | _ => simp [visited_cons, h]

/-- The last step of a path meets an object only where it stands on one. -/
theorem visited_last {heap : Heap} {value : Value} (hv : HeldByValue value) (step : Step) :
    visited heap value [step] = [] := by
  cases hread : getStep heap value step with
  | error e => cases value <;> simp_all [visited_cons, HeldByValue]
  | ok child =>
    rw [visited_cons_of_heldByValue hv hread]
    rfl

theorem visited_object {heap : Heap} {id : ObjectId} {child : Value} {step : Step}
    {rest : List Step} (h : getStep heap (.object id) step = .ok child) :
    visited heap (.object id) (step :: rest) = (id, step.name) :: visited heap child rest := by
  simp [visited_cons, h]

/-- A path that meets no object starts at a value held by value. -/
theorem heldByValue_of_visited {heap : Heap} {value : Value} {step : Step} {rest : List Step}
    (h : visited heap value (step :: rest) = []) : HeldByValue value := by
  rintro id rfl
  simp [visited_cons] at h

theorem visited_null (heap : Heap) (steps : List Step) : visited heap .null steps = [] := by
  cases steps with
  | nil => rfl
  | cons step rest =>
    cases h : getStep heap .null step with
    | error e => simp [visited_cons, h]
    | ok child => exact absurd (isContainer_of_getStep heldByValue_null h) (by decide)

/-- An empty mapping or list has nothing but null to read. -/
theorem eq_null_of_getStep {heap : Heap} {start child : Value} {step : Step}
    (hstart : start = .map [] ∨ start = .list []) (h : getStep heap start step = .ok child) :
    child = .null := by
  rcases getStep_eq_ok_iff.1 h with ⟨index, -, -, hread⟩ |
    ⟨index, collection, -, -, hcollection, hread⟩ | ⟨-, hread⟩
  · rcases hstart with rfl | rfl
    · cases hread
      rfl
    · simp [indexInto] at hread
  · rcases hstart with rfl | rfl
    · cases hcollection
      cases hread
    · cases hcollection
  · rcases hstart with rfl | rfl
    · cases hread
      rfl
    · cases hread

/-- There is nothing to meet in an empty mapping or list. -/
theorem visited_of_empty {heap : Heap} {start : Value} (hstart : start = .map [] ∨ start = .list [])
    (steps : List Step) : visited heap start steps = [] := by
  cases steps with
  | nil => rfl
  | cons step rest =>
    cases h : getStep heap start step with
    | error e => rcases hstart with rfl | rfl <;> simp [visited_cons, h]
    | ok child =>
      obtain rfl : child = .null := eq_null_of_getStep hstart h
      have hv : HeldByValue start := by
        rcases hstart with rfl | rfl
        · exact heldByValue_map []
        · exact heldByValue_list []
      rw [visited_cons_of_heldByValue hv h, visited_null]

end DynamicSql.Navigation

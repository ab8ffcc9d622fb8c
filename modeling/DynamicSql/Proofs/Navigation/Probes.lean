import DynamicSql.Navigation.Probe
import DynamicSql.Proofs.Navigation.Lens
import DynamicSql.Proofs.Path.Segments
import Mathlib.Data.List.TakeWhile

/-!
# Probes tell the truth

The probes for readable and writable paths and the operations themselves are four
recursions along the steps of a path.  For paths without brackets they agree: a readable
path is not missing, what is read was readable (`get_error_of_probe`, `probe_of_get`), and
on plain values a path is writable exactly where it can be written, whatever is written
(`probe_iff_set`).  Each is an induction on the steps, from the same statement about
single properties.
-/

namespace DynamicSql

/-- Whether an error says that there is nothing at a path: no such property to read, a
scalar on the way, or no such position. -/
def AccessError.isMissing : AccessError → Bool
  | .noGetter .. | .deadEnd .. | .invalidIndex .. => true
  | _ => false

namespace Path

/-! ## Paths without brackets -/

theorem Step.index_ofChars {cs : List Char} (h : '[' ∉ cs) : (Step.ofChars cs).index = none := by
  rw [Step.ofChars_of_not_mem h]

/-- Without a bracket no step has an index. -/
theorem index_of_mem_steps {path : String} (h : '[' ∉ path.toList) {step : Step}
    (hstep : step ∈ steps path) : step.index = none := by
  obtain ⟨segment, hsegment, rfl⟩ := List.mem_map.1 hstep
  exact Step.index_ofChars fun hc => h (mem_of_mem_segments hsegment hc)

end Path

namespace Navigation

open DynamicSql.Path (Step)

/-! ## Single properties -/

theorem getStep_of_index {step : Step} (h : step.index = none) (heap : Heap) (value : Value) :
    getStep heap value step = getProperty heap value step.name := by
  rw [getStep, h]

/-- An accessor that is there can fail, but not as if it were missing. -/
theorem isMissing_readThrough {heap : Heap} {owner : TypeKey} {accessor : Accessor}
    {id : ObjectId} {error : AccessError}
    (h : heap.readThrough owner accessor id = .error error) : error.isMissing = false := by
  simp only [Heap.readThrough, bind, Except.bind] at h
  split at h
  · rename_i hbody
    cases h
    unfold Accessor.readBody at hbody
    split at hbody <;> cases hbody <;> rfl
  · split at h
    · rename_i hreceiver
      cases h
      rw [Heap.checkReceiver] at hreceiver
      split at hreceiver <;> cases hreceiver
      rfl
    · split at h <;> cases h

/-- A property of an object is readable if its table has a reader. -/
theorem hasGetter_iff_reader {table : PropertyTable} {name : String} :
    table.hasGetter name = true ↔ ∃ accessor, table.reader name = .ok accessor := by
  rw [PropertyTable.hasGetter, Entries.contains, PropertyTable.reader]
  cases table.readers.get? name with
  | none => simp
  | some accessor => simp

/-- A readable property is not missing. -/
theorem isMissing_getProperty {heap : Heap} {value : Value} {name : String} {error : AccessError}
    (h : hasGetterStep heap value name = true)
    (herror : getProperty heap value name = .error error) : error.isMissing = false := by
  cases value with
  | object id =>
    obtain ⟨accessor, haccessor⟩ := hasGetter_iff_reader.1 h
    rw [getProperty, Heap.read, Heap.readWith, haccessor] at herror
    exact isMissing_readThrough herror
  | map => cases herror
  | _ => cases h

/-- A property that is read and is not null was readable. -/
theorem hasGetterStep_of_getProperty {heap : Heap} {value item : Value} {name : String}
    (h : getProperty heap value name = .ok item) (hitem : item.isNull = false) :
    hasGetterStep heap value name = true := by
  cases value with
  | object id =>
    rw [hasGetterStep, hasGetter_iff_reader]
    rw [getProperty, Heap.read, Heap.readWith] at h
    cases hreader : (heap.table id).reader name with
    | ok accessor => exact ⟨accessor, rfl⟩
    | error e =>
      rw [hreader] at h
      cases h
  | map entries =>
    rw [getProperty] at h
    rw [hasGetterStep, Entries.contains]
    cases hfound : Entries.get? entries name with
    | some found => rfl
    | none =>
      rw [hfound] at h
      cases h
      cases hitem
  | _ => cases h

/-- Among the values held by value only mappings have properties. -/
theorem eq_map_of_getProperty {heap : Heap} {value item : Value} {name : String}
    (hv : HeldByValue value) (h : getProperty heap value name = .ok item) :
    ∃ entries, value = .map entries := by
  cases value with
  | object id => exact absurd rfl (hv id)
  | map entries => exact ⟨entries, rfl⟩
  | _ => cases h

/-- A mapping takes every name. -/
theorem writeStep_map {step : Step} (h : step.index = none) (heap : Heap)
    (entries : Entries Value) (new : Value) :
    writeStep heap (.map entries) step new = ⟨.ok (.map (entries.put step.name new)), heap⟩ := by
  rw [writeStep, setStep, h]
  rfl

/-! ## Readable paths -/

/-- A probe that asks only what paths go on behind is true of nothing else. -/
theorem isTraversable_of_probe {ask : Value → String → Bool}
    (hask : ∀ value name, ask value name = true → isTraversable value = true) {heap : Heap}
    {value : Value} {steps : List Step} (h : probe ask heap value steps = true) :
    isTraversable value = true := by
  match steps, h with
  | [step], h => exact hask value step.name h
  | step :: next :: rest, h =>
    rw [probe] at h
    split at h
    · rename_i child hchild
      rcases heldByValue_or_object value with hv | ⟨id, rfl⟩
      · exact isTraversable_of_isContainer (isContainer_of_getStep hv hchild)
      · rfl
    · cases h

theorem isTraversable_of_hasGetterStep (heap : Heap) (value : Value) (name : String)
    (h : hasGetterStep heap value name = true) : isTraversable value = true := by
  cases value with
  | object | map => rfl
  | _ => cases h

theorem isTraversable_of_hasSetterStep (heap : Heap) (value : Value) (name : String)
    (h : hasSetterStep heap value name = true) : isTraversable value = true := by
  cases value with
  | object | map => rfl
  | _ => cases h

/-- Behind a value that is not null a probe goes on. -/
theorem probe_cons_of_not_isNull {ask : Value → String → Bool} {heap : Heap}
    {value child : Value} {step next : Step} {rest : List Step}
    (h : getStep heap value step = .ok child) (hchild : ¬ child.isNull = true) :
    probe ask heap value (step :: next :: rest) = probe ask heap child (next :: rest) := by
  simp only [probe, h, hchild, Bool.false_eq_true, if_false]

/-- Where a path is readable, a read does not fail as if something were missing. -/
theorem get_error_of_probe {heap : Heap} {value : Value} {steps : List Step}
    {error : AccessError} (hindex : ∀ step ∈ steps, step.index = none)
    (h : probe (hasGetterStep heap) heap value steps = true)
    (herror : get heap value steps = .error error) : error.isMissing = false := by
  induction steps generalizing value with
  | nil => cases herror
  | cons step rest ih =>
    have hstep := getStep_of_index (hindex step List.mem_cons_self) heap value
    cases rest with
    | nil =>
      rw [get, hstep] at herror
      exact isMissing_getProperty h herror
    | cons next rest =>
      rw [probe] at h
      split at h
      · rename_i child hchild
        by_cases hnull : child.isNull = true
        · -- behind null a read yields null
          simp only [get, hchild, hnull, bind, Except.bind, if_true, reduceCtorEq] at herror
        · rw [if_neg hnull] at h
          have htrav := isTraversable_of_probe (isTraversable_of_hasGetterStep heap) h
          rw [get_cons_of_isTraversable hchild htrav] at herror
          exact ih (fun step hmem => hindex step (List.mem_cons_of_mem _ hmem)) h herror
      · cases h

/-- A path at which something other than null is read is readable. -/
theorem probe_of_get {heap : Heap} {value item : Value} {steps : List Step}
    (hindex : ∀ step ∈ steps, step.index = none) (hne : steps ≠ [])
    (h : get heap value steps = .ok item) (hitem : item.isNull = false) :
    probe (hasGetterStep heap) heap value steps = true := by
  induction steps generalizing value with
  | nil => exact absurd rfl hne
  | cons step rest ih =>
    have hstep := getStep_of_index (hindex step List.mem_cons_self) heap value
    cases rest with
    | nil =>
      rw [get, hstep] at h
      exact hasGetterStep_of_getProperty h hitem
    | cons next rest =>
      obtain ⟨child, hchild, htrav, hrest⟩ := get_cons_inv h hitem
      rw [probe_cons_of_not_isNull hchild (by simp [isNull_of_isTraversable htrav])]
      exact ih (fun step hmem => hindex step (List.mem_cons_of_mem _ hmem))
        (List.cons_ne_nil _ _) hrest

/-! ## Writable paths -/

/-- In an empty mapping every path is writable. -/
theorem probe_map_nil {heap : Heap} {steps : List Step}
    (hindex : ∀ step ∈ steps, step.index = none) (hne : steps ≠ []) :
    probe (hasSetterStep heap) heap (.map []) steps = true := by
  match steps, hne with
  | [step], _ => rfl
  | step :: next :: rest, _ =>
    have hstep := getStep_of_index (hindex step List.mem_cons_self) heap (.map [])
    rw [probe, hstep]
    rfl

/-- What is written behind a property of a mapping that is not null can always be stored
back. -/
theorem set_map_iff {heap : Heap} {entries : Entries Value} {child new : Value}
    {step next : Step} {rest : List Step} (hname : step.index = none)
    (hchild : getStep heap (.map entries) step = .ok child) (hnull : ¬ child.isNull = true) :
    (∃ result after, set heap (.map entries) (step :: next :: rest) new = ⟨.ok result, after⟩) ↔
      isTraversable child = true ∧
        ∃ result after, set heap child (next :: rest) new = ⟨.ok result, after⟩ := by
  by_cases htrav : isTraversable child = true
  · simp only [set, hchild, hnull, htrav, Bool.false_and, Bool.false_eq_true, Bool.false_or,
      if_false, if_true, true_and]
    cases hset : set heap child (next :: rest) new with
    | mk outcome after =>
      cases outcome with
      | error e => simp [Written.failed]
      | ok changed =>
        refine iff_of_true ?_ ⟨changed, after, rfl⟩
        by_cases hback : changed.isContainer = true
        · simp [hback, writeStep_map hname]
        · simp [hback]
  · simp [set, hchild, hnull, htrav, Written.failed]

/-- **A path of a plain value is writable exactly where it can be written.**  Null on the
way does not stop either: the probe says yes there, and the write goes on in an empty
mapping, which takes every name. -/
theorem probe_iff_set {heap : Heap} {value : Value} {steps : List Step}
    (hindex : ∀ step ∈ steps, step.index = none) (hne : steps ≠ [])
    (hplain : value.isPlain = true) (new : Value) :
    probe (hasSetterStep heap) heap value steps = true ↔
      ∃ result after, set heap value steps new = ⟨.ok result, after⟩ := by
  induction steps generalizing value with
  | nil => exact absurd rfl hne
  | cons step rest ih =>
    have hname := hindex step List.mem_cons_self
    have hstep := getStep_of_index hname heap value
    have hv := heldByValue_of_isPlain hplain
    cases rest with
    | nil =>
      cases value with
      | object id => exact absurd rfl (hv id)
      | map entries => exact iff_of_true rfl ⟨_, _, writeStep_map hname heap entries new⟩
      | _ =>
        simp [probe, hasSetterStep, set, writeStep, setStep, hname, setProperty, Written.failed]
    | cons next rest =>
      have hrest : ∀ step ∈ next :: rest, step.index = none :=
        fun step hmem => hindex step (List.mem_cons_of_mem _ hmem)
      have hcons : next :: rest ≠ [] := List.cons_ne_nil next rest
      cases hchild : getStep heap value step with
      | error e => simp [probe, set, hchild, Written.failed]
      | ok child =>
        obtain ⟨entries, rfl⟩ := eq_map_of_getProperty hv (hstep ▸ hchild)
        by_cases hnull : child.isNull = true
        · have hempty : (Value.map []).isPlain = true := rfl
          obtain ⟨changed, after, hset⟩ :=
            (ih hrest hcons hempty).1 (probe_map_nil hrest hcons)
          refine iff_of_true (by simp [probe, hchild, hnull, hasSetterStep]) ?_
          by_cases hnew : new.isNull = true
          · simp [set, hchild, hnull, hnew]
          · simp [set, hchild, hnull, hnew, placeholder, isTraversable, hset,
              writeStep_map hname, bind, Except.bind]
        · rw [probe_cons_of_not_isNull hchild hnull, ih hrest hcons (isPlain_getStep hplain hchild),
            set_map_iff hname hchild hnull]
          refine (and_iff_right_of_imp ?_).symm
          rw [← ih hrest hcons (isPlain_getStep hplain hchild)]
          exact isTraversable_of_probe (isTraversable_of_hasSetterStep heap)

/-! ## Paths -/

/-- **The probes tell the truth** about paths without brackets.  A readable path is not
missing and what is read, unless it is null, was readable, also through host objects; and
a path of a plain value is writable exactly where any value can be written. -/
theorem probes_truthful (heap : Heap) (value : Value) (path : String)
    (hpath : '[' ∉ path.toList) :
    (hasGetter heap value path = true →
      ∀ error, getPath heap value path = .error error → error.isMissing = false) ∧
    (∀ item, getPath heap value path = .ok item → item.isNull = false →
      hasGetter heap value path = true) ∧
    (value.isPlain = true → ∀ new, hasSetter heap value path = true ↔
      ∃ result after, setPath heap value path new = ⟨.ok result, after⟩) := by
  have hindex : ∀ step ∈ Path.steps path, step.index = none :=
    fun step hstep => Path.index_of_mem_steps hpath hstep
  have hne := Path.steps_ne_nil path
  refine ⟨?_, ?_, ?_⟩
  · intro h error herror
    exact get_error_of_probe hindex h herror
  · intro item h hitem
    exact probe_of_get hindex hne h hitem
  · intro hplain new
    exact probe_iff_set hindex hne hplain new

/-- A desk, whose drawer can only be read, with a mapping in it. -/
def desk : Heap :=
  ⟨fun _ => { ClassDecl.empty "Desk" with
      fields := [⟨"drawer", .any, true, false, .slot "drawer", none⟩] },
    [⟨⟨0, "Desk"⟩, [("drawer", .map [("key", .string "brass")])]⟩]⟩

/-- The key in the drawer is read, so it is readable; and behind a missing unit of a plain
value anything can be written. -/
theorem probes_truthful_desk :
    getPath desk (.object ⟨0⟩) "drawer.key" = .ok (.string "brass") ∧
    hasGetter desk (.object ⟨0⟩) "drawer.key" = true ∧
    hasSetter desk (.map [("unit", .null)]) "unit.name.short" = true ∧
    ∀ new, ∃ result after,
      setPath desk (.map [("unit", .null)]) "unit.name.short" new = ⟨.ok result, after⟩ := by
  have hread : getPath desk (.object ⟨0⟩) "drawer.key" = .ok (.string "brass") := rfl
  have hsetter : hasSetter desk (.map [("unit", .null)]) "unit.name.short" = true := rfl
  refine ⟨hread, ?_, hsetter, fun new => ?_⟩
  · exact (probes_truthful desk _ "drawer.key" (by decide)).2.1 _ hread rfl
  · exact ((probes_truthful desk _ "unit.name.short" (by decide)).2.2 rfl new).1 hsetter

end Navigation

end DynamicSql

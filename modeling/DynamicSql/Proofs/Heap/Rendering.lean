import DynamicSql.Heap.Visits
import DynamicSql.Proofs.Value.Parts
import Mathlib.Data.List.Nodup
import Mathlib.Data.List.Perm.Subperm

/-!
# When a rendering as JSON ends

A rendering that follows `depth` references has no outcome exactly if it visits an object that
has none with one reference less (`objectJsonTo_succ_eq_none_iff`).  So one without an outcome
leaves a chain of visited objects that is as long as the references it follows
(`exists_chain_of_objectJsonTo_eq_none`), and in a chain longer than there are objects one
stands twice.
Conversely the objects on a chain end one before the other (`EndsAfter`), so a chain from an
object whose rendering ends holds none twice.
-/

namespace DynamicSql.Heap

/-! ## More depth, same outcome -/

section Depth

variable {f g : ObjectId → Option (Except AccessError Json)}

theorem jsonItems_mono {items : List Value}
    (h : ∀ item ∈ items, ∀ outcome, jsonWith f item = some outcome →
      jsonWith g item = some outcome) {outcome : Except AccessError (List Json)}
    (houtcome : jsonItems f items = some outcome) : jsonItems g items = some outcome := by
  induction items generalizing outcome with
  | nil => exact houtcome
  | cons item rest ih =>
    obtain ⟨hitem, hrest⟩ := List.forall_mem_cons.1 h
    rw [jsonItems] at houtcome ⊢
    cases hjson : jsonWith f item with
    | none => simp [hjson] at houtcome
    | some made =>
      rw [hjson] at houtcome
      rw [hitem made hjson]
      cases made with
      | error error => exact houtcome
      | ok json =>
        obtain ⟨more, hmore, hmap⟩ := Option.map_eq_some_iff.1 houtcome
        exact Option.map_eq_some_iff.2 ⟨more, ih hrest hmore, hmap⟩

theorem jsonEntries_mono {entries : Entries Value}
    (h : ∀ entry ∈ entries, ∀ outcome, jsonWith f entry.2 = some outcome →
      jsonWith g entry.2 = some outcome) {outcome : Except AccessError (List (String × Json))}
    (houtcome : jsonEntries f entries = some outcome) : jsonEntries g entries = some outcome := by
  induction entries generalizing outcome with
  | nil => exact houtcome
  | cons entry rest ih =>
    obtain ⟨hentry, hrest⟩ := List.forall_mem_cons.1 h
    rw [jsonEntries] at houtcome ⊢
    cases hjson : jsonWith f entry.2 with
    | none => simp [hjson] at houtcome
    | some made =>
      rw [hjson] at houtcome
      rw [hentry made hjson]
      cases made with
      | error error => exact houtcome
      | ok json =>
        obtain ⟨more, hmore, hmap⟩ := Option.map_eq_some_iff.1 houtcome
        exact Option.map_eq_some_iff.2 ⟨more, ih hrest hmore, hmap⟩

/-- What is known of a value stays when more is known of objects. -/
theorem jsonWith_mono (h : ∀ id outcome, f id = some outcome → g id = some outcome)
    {value : Value} {outcome : Except AccessError Json}
    (houtcome : jsonWith f value = some outcome) : jsonWith g value = some outcome := by
  induction value using Value.partsInduction generalizing outcome with
  | list items ih =>
    rw [jsonWith] at houtcome ⊢
    obtain ⟨more, hmore, hmap⟩ := Option.map_eq_some_iff.1 houtcome
    exact Option.map_eq_some_iff.2
      ⟨more, jsonItems_mono (fun item hitem _ => ih item hitem) hmore, hmap⟩
  | map entries ih =>
    rw [jsonWith] at houtcome ⊢
    obtain ⟨more, hmore, hmap⟩ := Option.map_eq_some_iff.1 houtcome
    exact Option.map_eq_some_iff.2
      ⟨more, jsonEntries_mono (fun entry hentry _ => ih entry hentry) hmore, hmap⟩
  | object id => exact h id outcome houtcome
  | _ => exact houtcome

end Depth

variable {heap : Heap} {id other : ObjectId} {depth more : Nat} {value : Value}
  {outcome : Except AccessError Json}

theorem jsonProperties_mono {f g : Value → Option (Except AccessError Json)}
    (h : ∀ value outcome, f value = some outcome → g value = some outcome) {names : List String}
    {outcome : Except AccessError (List (String × Json))}
    (houtcome : heap.jsonProperties f id names = some outcome) :
    heap.jsonProperties g id names = some outcome := by
  induction names generalizing outcome with
  | nil => exact houtcome
  | cons name rest ih =>
    rw [jsonProperties] at houtcome ⊢
    cases hread : heap.read id name with
    | error error =>
      rw [hread] at houtcome
      exact houtcome
    | ok value =>
      rw [hread] at houtcome
      simp only at houtcome ⊢
      cases hjson : f value with
      | none => simp [hjson] at houtcome
      | some made =>
        rw [hjson] at houtcome
        rw [h value made hjson]
        cases made with
        | error error => exact houtcome
        | ok json =>
          obtain ⟨more, hmore, hmap⟩ := Option.map_eq_some_iff.1 houtcome
          exact Option.map_eq_some_iff.2 ⟨more, ih hmore, hmap⟩

theorem objectJsonTo_succ_of_some (h : heap.objectJsonTo depth id = some outcome) :
    heap.objectJsonTo (depth + 1) id = some outcome := by
  induction depth generalizing id outcome with
  | zero => cases h
  | succ depth ih =>
    rw [objectJsonTo] at h ⊢
    obtain ⟨members, hmembers, hmap⟩ := Option.map_eq_some_iff.1 h
    refine Option.map_eq_some_iff.2 ⟨members, ?_, hmap⟩
    exact jsonProperties_mono (fun _ _ => jsonWith_mono fun _ _ => ih) hmembers

/-- Following more references leads to the same outcome. -/
theorem objectJsonTo_mono (hle : depth ≤ more) (h : heap.objectJsonTo depth id = some outcome) :
    heap.objectJsonTo more id = some outcome := by
  induction hle with
  | refl => exact h
  | step _ ih => exact objectJsonTo_succ_of_some ih

theorem toJsonTo_mono (hle : depth ≤ more) (h : heap.toJsonTo depth value = some outcome) :
    heap.toJsonTo more value = some outcome :=
  jsonWith_mono (fun _ _ => objectJsonTo_mono hle) h

/-- An object has one outcome at most. -/
theorem objectJsonTo_unique {first second : Except AccessError Json}
    (hfirst : heap.objectJsonTo depth id = some first)
    (hsecond : heap.objectJsonTo more id = some second) : first = second := by
  have hboth := objectJsonTo_mono (Nat.le_max_left depth more) hfirst
  rw [objectJsonTo_mono (Nat.le_max_right depth more) hsecond, Option.some.injEq] at hboth
  exact hboth.symm

/-! ## Walks through objects -/

/-- How a rendering ends, without what it results in. -/
def ending {α : Type} (outcome : Option (Except AccessError α)) :
    Option (Except AccessError Unit) :=
  outcome.map (Except.map fun _ => ())

/-- One thing after the other, unless the first has no outcome or fails. -/
def andThen (first next : Option (Except AccessError Unit)) : Option (Except AccessError Unit) :=
  match first with
  | some (.ok _) => next
  | stopped => stopped

/-- How a walk through objects ends that renders one after the other. -/
def walk (f : ObjectId → Option (Except AccessError Json)) :
    List ObjectId → Option (Except AccessError Unit)
  | [] => some (.ok ())
  | id :: rest => andThen (ending (f id)) (walk f rest)

section Walk

variable {f : ObjectId → Option (Except AccessError Json)}

theorem walk_append (ids others : List ObjectId) :
    walk f (ids ++ others) = andThen (walk f ids) (walk f others) := by
  induction ids with
  | nil => rfl
  | cons id rest ih =>
    rw [List.cons_append, walk, walk, ih]
    rcases ending (f id) with _ | _ | _ <;> rfl

theorem ending_jsonItems {items : List Value}
    (h : ∀ item ∈ items, ending (jsonWith f item) = walk f item.objects) :
    ending (jsonItems f items) = walk f (Value.itemObjects items) := by
  induction items with
  | nil => rfl
  | cons item rest ih =>
    obtain ⟨hitem, hrest⟩ := List.forall_mem_cons.1 h
    rw [Value.itemObjects, walk_append, ← hitem, ← ih hrest, jsonItems]
    rcases jsonWith f item with _ | _ | _
    · rfl
    · rfl
    · rcases jsonItems f rest with _ | _ | _ <;> rfl

theorem ending_jsonEntries {entries : Entries Value}
    (h : ∀ entry ∈ entries, ending (jsonWith f entry.2) = walk f entry.2.objects) :
    ending (jsonEntries f entries) = walk f (Value.entryObjects entries) := by
  induction entries with
  | nil => rfl
  | cons entry rest ih =>
    obtain ⟨hentry, hrest⟩ := List.forall_mem_cons.1 h
    rw [Value.entryObjects, walk_append, ← hentry, ← ih hrest, jsonEntries]
    rcases jsonWith f entry.2 with _ | _ | _
    · rfl
    · rfl
    · rcases jsonEntries f rest with _ | _ | _ <;> rfl

/-- Only its objects decide how the rendering of a value ends. -/
theorem ending_jsonWith (value : Value) :
    ending (jsonWith f value) = walk f value.objects := by
  induction value using Value.partsInduction with
  | list items ih =>
    rw [Value.objects, ← ending_jsonItems ih, jsonWith]
    rcases jsonItems f items with _ | _ | _ <;> rfl
  | map entries ih =>
    rw [Value.objects, ← ending_jsonEntries ih, jsonWith]
    rcases jsonEntries f entries with _ | _ | _ <;> rfl
  | object id =>
    rw [Value.objects, walk, walk, jsonWith]
    rcases f id with _ | _ | _ <;> rfl
  | _ => rfl

theorem jsonWith_eq_none_iff : jsonWith f value = none ↔ walk f value.objects = none := by
  rw [← ending_jsonWith, ending, Option.map_eq_none_iff]

/-- A property that cannot be read ends the rendering of its object just as well. -/
theorem jsonProperties_eq_none_iff {names : List String} :
    heap.jsonProperties (jsonWith f) id names = none ↔
      walk f ((heap.readable id names).flatMap Value.objects) = none := by
  induction names with
  | nil => simp [jsonProperties, readable, walk]
  | cons name rest ih =>
    rw [jsonProperties, readable]
    cases heap.read id name with
    | error error => simp [walk]
    | ok value =>
      simp only [List.flatMap_cons, walk_append, ← ending_jsonWith]
      rcases jsonWith f value with _ | _ | _
      · simp [ending, andThen]
      · simp [ending, andThen, Except.map]
      · simp [ending, andThen, Except.map, ih]

end Walk

/-! ## Visits -/

/-- A walk has no outcome exactly if it gets to an object that has none. -/
theorem walk_eq_none_iff {ids : List ObjectId} : walk (heap.objectJsonTo depth) ids = none ↔
    ∃ id, WalkReaches heap.Rendered ids id ∧ heap.objectJsonTo depth id = none := by
  induction ids with
  | nil => simp [walk]
  | cons first rest ih =>
    rw [walk]
    simp only [WalkReaches.cons_iff]
    rcases hfirst : heap.objectJsonTo depth first with _ | error | json
    · simp only [ending, Option.map_none, andThen, true_iff]
      exact ⟨first, .inl rfl, hfirst⟩
    · have hfails : ¬ heap.Rendered first := by
        rintro ⟨more, json, hjson⟩
        cases objectJsonTo_unique hfirst hjson
      simp only [ending, Option.map_some, Except.map, andThen, reduceCtorEq, false_iff]
      rintro ⟨id, rfl | ⟨hrendered, -⟩, hid⟩
      · rw [hfirst] at hid
        cases hid
      · exact hfails hrendered
    · have hrendered : heap.Rendered first := ⟨depth, json, hfirst⟩
      simp only [ending, Option.map_some, Except.map, andThen, ih]
      constructor
      · rintro ⟨id, hreach, hid⟩
        exact ⟨id, .inr ⟨hrendered, hreach⟩, hid⟩
      · rintro ⟨id, rfl | ⟨-, hreach⟩, hid⟩
        · rw [hfirst] at hid
          cases hid
        · exact ⟨id, hreach, hid⟩

theorem toJsonTo_eq_none_iff : heap.toJsonTo depth value = none ↔
    ∃ id, WalkReaches heap.Rendered value.objects id ∧ heap.objectJsonTo depth id = none := by
  rw [toJsonTo, jsonWith_eq_none_iff, walk_eq_none_iff]

/-- The rendering of an object has no outcome exactly if it visits one that has none with one
reference less. -/
theorem objectJsonTo_succ_eq_none_iff : heap.objectJsonTo (depth + 1) id = none ↔
    ∃ other, heap.Visits id other ∧ heap.objectJsonTo depth other = none := by
  rw [objectJsonTo, Option.map_eq_none_iff, jsonProperties_eq_none_iff, walk_eq_none_iff]
  rfl

/-! ## Chains -/

/-- Only objects that exist have properties. -/
theorem lt_of_visits (h : heap.Visits id other) : id.index < heap.cells.length := by
  by_contra hge
  have hnames : (heap.table id).readableNames = [] := by
    rw [table, classOf, List.getElem?_eq_none (by omega)]
    rfl
  have hheld : heap.held id = [] := by
    rw [held, hnames]
    rfl
  rw [Visits, hheld] at h
  exact WalkReaches.nil_iff h

/-- A rendering without an outcome leaves a chain of visits. -/
theorem exists_chain_of_objectJsonTo_eq_none (h : heap.objectJsonTo depth id = none) :
    ∃ rest, rest.length = depth ∧ List.IsChain heap.Visits (id :: rest) := by
  induction depth generalizing id with
  | zero => exact ⟨[], rfl, .singleton id⟩
  | succ depth ih =>
    obtain ⟨other, hvisits, hother⟩ := objectJsonTo_succ_eq_none_iff.1 h
    obtain ⟨rest, hlength, hchain⟩ := ih hother
    exact ⟨other :: rest, by simp [hlength], List.isChain_cons_cons.2 ⟨hvisits, hchain⟩⟩

/-- All objects on a chain exist, apart from the last. -/
theorem lt_of_mem_dropLast {ids : List ObjectId} (h : List.IsChain heap.Visits ids) :
    ∀ id ∈ ids.dropLast, id.index < heap.cells.length := by
  induction ids with
  | nil => simp
  | cons first rest ih =>
    cases rest with
    | nil => simp
    | cons second rest =>
      obtain ⟨hvisits, hchain⟩ := List.isChain_cons_cons.1 h
      rw [List.dropLast_cons_cons]
      exact List.forall_mem_cons.2 ⟨lt_of_visits hvisits, ih hchain⟩

/-- Different objects that exist are not more than there are. -/
theorem length_le_of_nodup {ids : List ObjectId} (hnodup : ids.Nodup)
    (h : ∀ id ∈ ids, id.index < heap.cells.length) : ids.length ≤ heap.cells.length := by
  have hindices : (ids.map ObjectId.index).Nodup := by
    refine List.Nodup.map (fun first second heq => ?_) hnodup
    cases first
    cases second
    exact congrArg _ heq
  have hsubset : ids.map ObjectId.index ⊆ List.range heap.cells.length := by
    intro index hindex
    obtain ⟨id, hid, rfl⟩ := List.mem_map.1 hindex
    exact List.mem_range.2 (h id hid)
  have hlength := (List.subperm_of_subset hindices hsubset).length_le
  rwa [List.length_map, List.length_range] at hlength

/-- In a chain of more visits than there are objects one stands twice. -/
theorem not_nodup_of_long_chain {rest : List ObjectId} (hlength : heap.cells.length < rest.length)
    (h : List.IsChain heap.Visits (id :: rest)) : ¬ (id :: rest).Nodup := by
  intro hnodup
  have hshort : (id :: rest).dropLast.length ≤ heap.cells.length := by
    apply length_le_of_nodup (hnodup.sublist (List.dropLast_sublist _))
    exact lt_of_mem_dropLast h
  rw [List.length_dropLast, List.length_cons] at hshort
  omega

/-- Whether, as far as one object has an outcome, another one has it with fewer references. -/
def EndsAfter (heap : Heap) (id other : ObjectId) : Prop :=
  ∀ depth, heap.objectJsonTo depth id ≠ none →
    ∃ less < depth, heap.objectJsonTo less other ≠ none

theorem endsAfter_of_visits (h : heap.Visits id other) : heap.EndsAfter id other := by
  intro depth hdepth
  cases depth with
  | zero => exact absurd rfl hdepth
  | succ depth =>
    refine ⟨depth, Nat.lt_succ_self depth, fun hother => hdepth ?_⟩
    exact objectJsonTo_succ_eq_none_iff.2 ⟨other, h, hother⟩

instance : Trans heap.EndsAfter heap.EndsAfter heap.EndsAfter where
  trans := by
    intro first second third hfirst hsecond depth hdepth
    obtain ⟨less, hless, hmiddle⟩ := hfirst depth hdepth
    obtain ⟨least, hleast, hthird⟩ := hsecond less hmiddle
    exact ⟨least, Nat.lt_trans hleast hless, hthird⟩

/-- No object that has an outcome has it before itself. -/
theorem eq_none_of_endsAfter_self (h : heap.EndsAfter id id) (depth : Nat) :
    heap.objectJsonTo depth id = none := by
  induction depth using Nat.strongRecOn with
  | _ depth ih =>
    by_contra hdepth
    obtain ⟨less, hless, hsome⟩ := h depth hdepth
    exact hsome (ih less hless)

/-- A chain that holds an object twice starts from one without an outcome. -/
theorem eq_none_of_chain {rest : List ObjectId} (h : List.IsChain heap.Visits (id :: rest))
    (htwice : ¬ (id :: rest).Nodup) (depth : Nat) : heap.objectJsonTo depth id = none := by
  have hpairwise : (id :: rest).Pairwise heap.EndsAfter :=
    (h.imp fun _ _ => endsAfter_of_visits).pairwise
  by_contra hdepth
  apply htwice
  refine hpairwise.imp_of_mem fun {first second} hfirst _ hends heq => ?_
  subst heq
  -- the object stands twice, so it would end before itself, but it does end
  have hnever := eq_none_of_endsAfter_self hends
  rcases List.mem_cons.1 hfirst with rfl | hrest
  · exact hdepth (hnever depth)
  · obtain ⟨less, -, hsome⟩ := (List.pairwise_cons.1 hpairwise).1 first hrest depth hdepth
    exact hsome (hnever less)

/-! ## The end of a rendering -/

/-- A rendering that comes back to an object has no outcome at any depth. -/
theorem toJsonTo_eq_none_of_comesBack (h : heap.ComesBack value) (depth : Nat) :
    heap.toJsonTo depth value = none := by
  obtain ⟨first, rest, hreach, hchain, htwice⟩ := h
  exact toJsonTo_eq_none_iff.2 ⟨first, hreach, eq_none_of_chain hchain htwice depth⟩

/-- Following one reference more than there are objects is enough to see it come back. -/
theorem toJson_eq_none_iff : heap.toJson value = none ↔ heap.ComesBack value := by
  constructor
  · intro h
    obtain ⟨first, hreach, hfirst⟩ := toJsonTo_eq_none_iff.1 h
    obtain ⟨rest, hlength, hchain⟩ := exists_chain_of_objectJsonTo_eq_none hfirst
    exact ⟨first, rest, hreach, hchain, not_nodup_of_long_chain (by omega) hchain⟩
  · intro h
    exact toJsonTo_eq_none_of_comesBack h _

/-- **The rendering of a value as JSON ends exactly if it does not come back to an object that
is still being rendered.**  Then there is a depth at which it has an outcome, a document or an
error; one reference more than there are objects is deep enough for it, and at every depth
where there is an outcome it is the same one. -/
theorem toJson_ends_iff (heap : Heap) (value : Value) :
    ((∃ depth outcome, heap.toJsonTo depth value = some outcome) ↔ ¬ heap.ComesBack value) ∧
    (∀ outcome, (∃ depth, heap.toJsonTo depth value = some outcome) ↔
      heap.toJson value = some outcome) := by
  have hdeep : ∀ {depth outcome}, heap.toJsonTo depth value = some outcome →
      heap.toJson value = some outcome := by
    intro depth outcome h
    cases hjson : heap.toJson value with
    | none =>
      rw [toJsonTo_eq_none_of_comesBack (toJson_eq_none_iff.1 hjson) depth] at h
      cases h
    | some found =>
      have hboth := toJsonTo_mono (Nat.le_max_left depth (heap.cells.length + 1)) h
      rw [toJsonTo_mono (Nat.le_max_right depth _) hjson] at hboth
      exact hboth
  refine ⟨?_, fun outcome => ⟨fun ⟨depth, h⟩ => hdeep h, fun h => ⟨_, h⟩⟩⟩
  rw [← toJson_eq_none_iff, ← Ne, Option.ne_none_iff_exists']
  constructor
  · rintro ⟨depth, outcome, h⟩
    exact ⟨outcome, hdeep h⟩
  · rintro ⟨outcome, h⟩
    exact ⟨_, outcome, h⟩

/-! ## Objects that refer back -/

/-- The type of parents. -/
def parentKey : TypeKey := ⟨0, "family::Parent"⟩

/-- The type of children. -/
def childKey : TypeKey := ⟨1, "family::Child"⟩

/-- A class with one property that is read from a slot and written to it. -/
def relativeClass (name property : String) : ClassDecl :=
  { ClassDecl.empty name with
    fields := [⟨property, .any, false, false, .slot property, some ⟨property, .any⟩⟩] }

/-- A parent with its child, which knows of no parent if `known` is empty. -/
def familyWith (known : Entries Value) : Heap where
  describe key :=
    if key = parentKey then relativeClass "Parent" "children" else relativeClass "Child" "parent"
  cells := [⟨parentKey, [("children", .list [.object ⟨1⟩])]⟩, ⟨childKey, known⟩]

/-- A parent and a child that refer to each other. -/
def family : Heap := familyWith [("parent", .object ⟨0⟩)]

/-- An ordinary write tells the child its parent, and from then on neither of them has a JSON
form at any depth. -/
theorem family_never_ends :
    (familyWith []).write ⟨1⟩ "parent" (.object ⟨0⟩) = .ok family ∧
      ¬ ∃ depth outcome, family.toJsonTo depth (.object ⟨0⟩) = some outcome := by
  have hparent : family.held ⟨0⟩ = [⟨1⟩] := by decide
  have hchild : family.held ⟨1⟩ = [⟨0⟩] := by decide
  have hback : family.ComesBack (.object ⟨0⟩) := by
    refine ⟨⟨0⟩, [⟨1⟩, ⟨0⟩], by simp [Value.objects], ?_, by decide⟩
    simp [Visits, hparent, hchild]
  refine ⟨rfl, ?_⟩
  rintro ⟨depth, outcome, h⟩
  rw [toJsonTo_eq_none_of_comesBack hback depth] at h
  cases h

end DynamicSql.Heap

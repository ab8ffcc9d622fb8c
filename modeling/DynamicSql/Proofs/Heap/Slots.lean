import DynamicSql.Heap.Backing

/-!
# Slots of objects

Storing in a slot changes that slot and nothing else: no other slot, no type and
no property table.  A property that is backed by one slot is read and written
there.
-/

namespace DynamicSql.Heap

variable {heap : Heap} {id other : ObjectId} {name slot : String} {value : Value}

/-! ## Storing in a slot -/

theorem cells_setSlot : (heap.setSlot id name value).cells[other.index]? =
    (heap.cells[other.index]?).map fun cell =>
      if other = id then { cell with slots := cell.slots.put name value } else cell := by
  obtain ⟨i⟩ := id
  obtain ⟨j⟩ := other
  simp only [setSlot, List.getElem?_modify, ObjectId.mk.injEq]
  by_cases h : i = j
  · simp [h]
  · simp [h, Ne.symm h]

@[simp] theorem typeOf_setSlot : (heap.setSlot id name value).typeOf other = heap.typeOf other := by
  simp only [typeOf, cell, cells_setSlot]
  cases heap.cells[other.index]? <;> simp
  split <;> rfl

@[simp] theorem classOf_setSlot :
    (heap.setSlot id name value).classOf other = heap.classOf other := by
  simp only [classOf, cells_setSlot]
  cases heap.cells[other.index]? <;> simp [setSlot]
  split <;> rfl

@[simp] theorem table_setSlot : (heap.setSlot id name value).table other = heap.table other := by
  simp [table]

@[simp] theorem backing?_setSlot (property : String) :
    (heap.setSlot id name value).backing? other property = heap.backing? other property := by
  simp [backing?]

/-- What is stored in a slot of an existing object is found there. -/
theorem slot_setSlot_self (h : id.index < heap.cells.length) :
    (heap.setSlot id name value).slot id name = value := by
  simp only [slot, cell, cells_setSlot, List.getElem?_eq_getElem h]
  simp

/-- No other slot changes. -/
theorem slot_setSlot_of_ne (h : (other, slot) ≠ (id, name)) :
    (heap.setSlot id name value).slot other slot = heap.slot other slot := by
  simp only [Heap.slot, cell, cells_setSlot]
  cases heap.cells[other.index]? with
  | none => rfl
  | some cell =>
    by_cases hid : other = id
    · have hslot : slot ≠ name := fun heq => h (by rw [hid, heq])
      simp [hid, Entries.get?_put_of_ne _ _ hslot]
    · simp [hid]

/-- Storing what is there already changes nothing. -/
theorem setSlot_slot (h : heap.slot id name = value) (hvalue : value.isNull = false) :
    heap.setSlot id name value = heap := by
  have hcells : ∀ cell, heap.cells[id.index]? = some cell →
      { cell with slots := cell.slots.put name value } = cell := by
    intro cell hcell
    have hget : cell.slots.get? name = some value := by
      simp only [slot, Heap.cell, hcell, Option.getD_some] at h
      cases hfound : cell.slots.get? name with
      | none => simp [hfound] at h; subst h; simp [Value.isNull] at hvalue
      | some found => simpa [hfound] using h
    rw [Entries.put_eq_self hget]
  obtain ⟨describe, cells⟩ := heap
  simp only [setSlot, mk.injEq, true_and]
  refine List.ext_getElem? fun i => ?_
  rw [List.getElem?_modify]
  by_cases hi : id.index = i
  · subst hi
    cases hcell : cells[id.index]? with
    | none => rfl
    | some cell => simp [hcells cell hcell]
  · simp [hi]

/-! ## Properties backed by a slot -/

theorem backing?_eq_some (h : heap.backing? id name = some slot) :
    ∃ reader writer, (heap.table id).reader name = .ok reader ∧
      (heap.table id).writer name = .ok writer ∧
      reader.readBody = .ok (.slot slot) ∧ writer.writeBody = .ok ⟨slot, .any⟩ := by
  unfold backing? at h
  split at h
  · rename_i reader writer hreader hwriter
    split at h
    · rename_i source target hread hwrite
      split at h
      · rename_i heq
        cases h
        exact ⟨reader, writer, hreader, hwriter, hread, heq ▸ hwrite⟩
      · cases h
    · cases h
  · cases h

/-- An object is of the type that its own table was built for. -/
theorem checkReceiver_owner : heap.checkReceiver (heap.table id).owner id = .ok () := by
  simp [checkReceiver, table, PropertyTable.build]

theorem read_of_backing? (h : heap.backing? id name = some slot) :
    heap.read id name = .ok (heap.slot id slot) := by
  obtain ⟨reader, writer, hreader, -, hread, -⟩ := backing?_eq_some h
  simp [read, readWith, readThrough, hreader, hread, checkReceiver_owner, bind, Except.bind]

theorem write_of_backing? (h : heap.backing? id name = some slot) (value : Value) :
    heap.write id name value = .ok (heap.setSlot id slot value) := by
  obtain ⟨reader, writer, -, hwriter, -, hwrite⟩ := backing?_eq_some h
  simp [write, writeWith, writeThrough, hwriter, hwrite, checkReceiver_owner, bind, Except.bind,
    convert, Conversion.apply, Conversion.convert?]

/-- A reference that leads nowhere has no properties. -/
theorem lt_of_backing? (h : heap.backing? id name = some slot) :
    id.index < heap.cells.length := by
  refine Decidable.byContradiction fun hge => ?_
  obtain ⟨reader, writer, hreader, -⟩ := backing?_eq_some h
  have hempty : (heap.table id).readers = [] := by
    rw [table, classOf, List.getElem?_eq_none (by omega)]
    rfl
  simp [PropertyTable.reader, hempty] at hreader

end DynamicSql.Heap

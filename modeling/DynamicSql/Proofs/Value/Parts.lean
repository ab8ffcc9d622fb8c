import DynamicSql.Value.Equality

/-!
# The parts of a value

Induction over lists and mappings, and what tests of a value and equality say of its parts.
-/

namespace DynamicSql.Value

/-- What holds of a value when it holds of its parts holds of every value. -/
@[elab_as_elim]
theorem partsInduction {motive : Value → Prop} (null : motive .null)
    (boolean : ∀ b, motive (.boolean b)) (integer : ∀ i, motive (.integer i))
    (decimal : ∀ d, motive (.decimal d)) (string : ∀ s, motive (.string s))
    (list : ∀ items, (∀ item ∈ items, motive item) → motive (.list items))
    (map : ∀ entries, (∀ entry ∈ entries, motive entry.2) → motive (.map entries))
    (object : ∀ id, motive (.object id)) (value : Value) : motive value := by
  refine Value.rec (motive_1 := motive) (motive_2 := fun items => ∀ item ∈ items, motive item)
    (motive_3 := fun entries => ∀ entry ∈ entries, motive entry.2)
    (motive_4 := fun entry => motive entry.2) null boolean integer decimal string list map object
    ?_ ?_ ?_ ?_ ?_ value
  · exact fun item hitem => absurd hitem List.not_mem_nil
  · exact fun first rest hfirst hrest => List.forall_mem_cons.2 ⟨hfirst, hrest⟩
  · exact fun entry hentry => absurd hentry List.not_mem_nil
  · exact fun first rest hfirst hrest => List.forall_mem_cons.2 ⟨hfirst, hrest⟩
  · exact fun name value hvalue => hvalue

/-! ## Tests -/

theorem arePlain_iff {items : List Value} :
    arePlain items = true ↔ ∀ item ∈ items, item.isPlain = true := by
  induction items with
  | nil => simp [arePlain]
  | cons item rest ih => simp [arePlain, ih]

theorem entriesPlain_iff {entries : Entries Value} :
    entriesPlain entries = true ↔ ∀ entry ∈ entries, entry.2.isPlain = true := by
  induction entries with
  | nil => simp [entriesPlain]
  | cons entry rest ih => simp [entriesPlain, ih]

theorem areDecimalFree_iff {items : List Value} :
    areDecimalFree items = true ↔ ∀ item ∈ items, item.isDecimalFree = true := by
  induction items with
  | nil => simp [areDecimalFree]
  | cons item rest ih => simp [areDecimalFree, ih]

theorem entriesDecimalFree_iff {entries : Entries Value} :
    entriesDecimalFree entries = true ↔ ∀ entry ∈ entries, entry.2.isDecimalFree = true := by
  induction entries with
  | nil => simp [entriesDecimalFree]
  | cons entry rest ih => simp [entriesDecimalFree, ih]

theorem itemsDistinct_iff {items : List Value} :
    itemsDistinct items = true ↔ ∀ item ∈ items, item.hasDistinctKeys = true := by
  induction items with
  | nil => simp [itemsDistinct]
  | cons item rest ih => simp [itemsDistinct, ih]

theorem entriesDistinct_iff {entries : Entries Value} : entriesDistinct entries = true ↔
    entries.keys.Nodup ∧ ∀ entry ∈ entries, entry.2.hasDistinctKeys = true := by
  induction entries with
  | nil => simp [entriesDistinct, Entries.keys]
  | cons entry rest ih =>
    have hnew : (!Entries.contains rest entry.1) = true ↔ entry.1 ∉ Entries.keys rest := by
      rw [Entries.mem_keys_iff, Bool.not_eq_true', Bool.not_eq_true]
      rfl
    rw [entriesDistinct, Bool.and_eq_true, Bool.and_eq_true, hnew, ih, List.forall_mem_cons]
    constructor
    · rintro ⟨⟨hfirst, hvalue⟩, hnodup, hrest⟩
      exact ⟨List.nodup_cons.2 ⟨hfirst, hnodup⟩, hvalue, hrest⟩
    · rintro ⟨hnodup, hvalue, hrest⟩
      obtain ⟨hfirst, hnodup⟩ := List.nodup_cons.1 hnodup
      exact ⟨⟨hfirst, hvalue⟩, hnodup, hrest⟩

/-! ## Equality -/

/-- What is made of every item and equal to it makes an equal list. -/
theorem sameItems_map {f : Value → Value} {items : List Value}
    (h : ∀ item ∈ items, (f item).same item = true) : sameItems (items.map f) items = true := by
  induction items with
  | nil => rfl
  | cons item rest ih =>
    obtain ⟨hitem, hrest⟩ := List.forall_mem_cons.1 h
    rw [List.map_cons, sameItems, hitem, ih hrest]
    rfl

/-- Entries are found equal if each has an equal one under its name. -/
theorem sameEntries_iff {entries other : Entries Value} : sameEntries entries other = true ↔
    ∀ entry ∈ entries, ∃ value, other.get? entry.1 = some value ∧ entry.2.same value = true := by
  induction entries with
  | nil => simp [sameEntries]
  | cons entry rest ih =>
    rw [sameEntries, Bool.and_eq_true, ih, List.forall_mem_cons]
    refine and_congr_left' ?_
    cases other.get? entry.1 <;> simp

end DynamicSql.Value

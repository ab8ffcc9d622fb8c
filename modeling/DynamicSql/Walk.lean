/-!
# Walks that stop at the first failure

Items are often worked through in order, and the first one that fails ends the work.  A
walk gets to an item if everything before it passes; the first failure is the item that a
walk gets to and that does not pass itself.
-/

namespace DynamicSql

variable {α : Type} {passes : α → Prop} {items more : List α} {item other : α}

/-- Whether a walk that ends at the first item that does not pass gets to an item. -/
def WalkReaches (passes : α → Prop) (items : List α) (item : α) : Prop :=
  ∃ before after, items = before ++ item :: after ∧ ∀ other ∈ before, passes other

namespace WalkReaches

theorem mem (h : WalkReaches passes items item) : item ∈ items := by
  obtain ⟨before, after, rfl, -⟩ := h
  simp

@[simp] theorem nil_iff : ¬ WalkReaches passes [] item := by
  intro h
  exact absurd h.mem List.not_mem_nil

@[simp] theorem cons_iff : WalkReaches passes (other :: items) item ↔
    item = other ∨ passes other ∧ WalkReaches passes items item := by
  constructor
  · rintro ⟨before, after, heq, hbefore⟩
    cases before with
    | nil =>
      exact .inl (List.cons.inj heq).1.symm
    | cons first before =>
      obtain ⟨rfl, rfl⟩ := List.cons.inj heq
      obtain ⟨hfirst, hrest⟩ := List.forall_mem_cons.1 hbefore
      exact .inr ⟨hfirst, before, after, rfl, hrest⟩
  · rintro (rfl | ⟨hother, before, after, rfl, hbefore⟩)
    · exact ⟨[], items, rfl, by simp⟩
    · exact ⟨other :: before, after, rfl, List.forall_mem_cons.2 ⟨hother, hbefore⟩⟩

@[simp] theorem append_iff : WalkReaches passes (items ++ more) item ↔
    WalkReaches passes items item ∨
      (∀ other ∈ items, passes other) ∧ WalkReaches passes more item := by
  induction items with
  | nil => simp
  | cons first items ih => simp [ih, and_or_left, or_assoc, and_assoc]

/-- Items that pass anyway can be left out. -/
theorem filter_iff {test : α → Bool} (h : ∀ other, test other = false → passes other) :
    WalkReaches passes (items.filter test) item ↔
      WalkReaches passes items item ∧ test item = true := by
  induction items with
  | nil => simp
  | cons first items ih =>
    by_cases hfirst : test first = true
    · simp only [List.filter_cons_of_pos hfirst, cons_iff, ih]
      constructor
      · rintro (rfl | ⟨hpasses, hrest, htest⟩)
        · exact ⟨.inl rfl, hfirst⟩
        · exact ⟨.inr ⟨hpasses, hrest⟩, htest⟩
      · rintro ⟨rfl | ⟨hpasses, hrest⟩, htest⟩
        · exact .inl rfl
        · exact .inr ⟨hpasses, hrest, htest⟩
    · rw [List.filter_cons_of_neg hfirst, ih, cons_iff]
      constructor
      · rintro ⟨hrest, htest⟩
        exact ⟨.inr ⟨h first (by simpa using hfirst), hrest⟩, htest⟩
      · rintro ⟨rfl | ⟨-, hrest⟩, htest⟩
        · exact absurd htest hfirst
        · exact ⟨hrest, htest⟩

/-- Either all items pass or there is a first one that does not. -/
theorem all_or_first (passes : α → Prop) (items : List α) :
    (∀ item ∈ items, passes item) ∨ ∃ item, WalkReaches passes items item ∧ ¬ passes item := by
  induction items with
  | nil => simp
  | cons first items ih =>
    by_cases hfirst : passes first
    · rcases ih with hall | ⟨item, hitem, hfails⟩
      · exact .inl (List.forall_mem_cons.2 ⟨hfirst, hall⟩)
      · exact .inr ⟨item, cons_iff.2 (.inr ⟨hfirst, hitem⟩), hfails⟩
    · exact .inr ⟨first, cons_iff.2 (.inl rfl), hfirst⟩

/-- There is only one first failure. -/
theorem first_unique (h : WalkReaches passes items item) (hitem : ¬ passes item)
    (hother : WalkReaches passes items other) (hfails : ¬ passes other) : item = other := by
  induction items with
  | nil => exact absurd h nil_iff
  | cons first items ih =>
    rw [cons_iff] at h hother
    by_cases hfirst : passes first
    · rcases h with rfl | ⟨-, h⟩
      · exact absurd hfirst hitem
      · rcases hother with rfl | ⟨-, hother⟩
        · exact absurd hfirst hfails
        · exact ih h hother
    · rcases h with rfl | ⟨hpasses, -⟩
      · rcases hother with rfl | ⟨hpasses, -⟩
        · rfl
        · exact absurd hpasses hfirst
      · exact absurd hpasses hfirst

end WalkReaches

end DynamicSql

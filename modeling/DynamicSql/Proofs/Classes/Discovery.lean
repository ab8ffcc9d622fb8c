import DynamicSql.Proofs.Classes.Layers
import DynamicSql.Proofs.Classes.Signatures

/-!
# What discovery finds

Keeping the first item of each key loses no key, so discovery loses no signature;
and where no separator stands in a name, a lost method has the name and the number
of parameters of one that was kept.
-/

namespace DynamicSql

/-! ## The first item of each key -/

section Firsts

variable {α : Type} {key : α → String} {items : List α} {item : α}

theorem mem_of_mem_firsts (h : item ∈ firsts key items) : item ∈ items := by
  induction items with
  | nil => simp [firsts] at h
  | cons first rest ih =>
    rw [firsts, List.mem_cons, List.mem_filter] at h
    rcases h with rfl | ⟨h, -⟩
    · exact List.mem_cons_self
    · exact List.mem_cons_of_mem _ (ih h)

/-- Every key has its first item. -/
theorem exists_mem_firsts (key : α → String) (h : item ∈ items) :
    ∃ kept ∈ firsts key items, key kept = key item := by
  induction items with
  | nil => simp at h
  | cons first rest ih =>
    by_cases hkey : key first = key item
    · exact ⟨first, by simp [firsts], hkey⟩
    · have hrest : item ∈ rest := by
        rcases List.mem_cons.1 h with rfl | h
        · exact absurd rfl hkey
        · exact h
      obtain ⟨kept, hkept, hsame⟩ := ih hrest
      refine ⟨kept, ?_, hsame⟩
      rw [firsts, List.mem_cons, List.mem_filter]
      exact .inr ⟨hkept, by simpa [hsame] using Ne.symm hkey⟩

/-- No key is kept twice. -/
theorem pairwise_firsts (key : α → String) (items : List α) :
    (firsts key items).Pairwise fun a b => key a ≠ key b := by
  induction items with
  | nil => simp [firsts]
  | cons first rest ih =>
    rw [firsts, List.pairwise_cons]
    refine ⟨?_, ih.sublist List.filter_sublist⟩
    intro other hother
    have hne : key other ≠ key first := by simpa using (List.mem_filter.1 hother).2
    exact hne.symm

/-- Leaving out items without a property does not change which is the first with it. -/
theorem find?_filter_of_imp {p q : α → Bool} (h : ∀ item ∈ items, p item = true → q item = true) :
    (items.filter q).find? p = items.find? p := by
  rw [← List.head?_filter, ← List.head?_filter, List.filter_filter]
  exact congrArg List.head? (List.filter_congr fun item hitem =>
    Bool.and_eq_left_iff_imp.2 (h item hitem))

/-- Of the items with a property that depends only on the key the first ones are kept. -/
theorem filter_firsts {p : α → Bool}
    (h : ∀ item ∈ items, ∀ other ∈ items, key item = key other → p item = p other) :
    (firsts key items).filter p = firsts key (items.filter p) := by
  induction items with
  | nil => rfl
  | cons first rest ih =>
    have hrest := ih fun item hitem other hother =>
      h item (List.mem_cons_of_mem _ hitem) other (List.mem_cons_of_mem _ hother)
    rw [firsts]
    by_cases hfirst : p first = true
    · rw [List.filter_cons_of_pos hfirst, List.filter_cons_of_pos hfirst, firsts, ← hrest,
        List.filter_filter, List.filter_filter]
      exact congrArg _ (List.filter_congr fun _ _ => Bool.and_comm _ _)
    · rw [List.filter_cons_of_neg hfirst, List.filter_cons_of_neg hfirst, ← hrest,
        List.filter_filter]
      -- an item that `first` hides has its key, so it has not the property either
      refine List.filter_congr fun other hother => Bool.and_eq_left_iff_imp.2 fun hp => ?_
      refine bne_iff_ne.2 fun hkey => hfirst ?_
      have hmem := List.mem_cons_of_mem first (mem_of_mem_firsts hother)
      rw [← h other hmem first List.mem_cons_self hkey, hp]

/-- Of the items with a property that depends only on the key the first is kept. -/
theorem find?_firsts_of_congr {p : α → Bool}
    (h : ∀ item ∈ items, ∀ other ∈ items, key item = key other → p item = p other) :
    (firsts key items).find? p = items.find? p := by
  rw [← List.head?_filter, ← List.head?_filter, filter_firsts h]
  cases items.filter p with
  | nil => rfl
  | cons first rest => rfl

/-- The item kept for a key is the first that has it. -/
theorem find?_firsts (key : α → String) (items : List α) (name : String) :
    (firsts key items).find? (fun item => key item == name) =
      items.find? fun item => key item == name :=
  find?_firsts_of_congr fun _ _ _ _ hkey => by rw [hkey]

/-- Of the items of one key only the first is kept. -/
theorem filter_firsts_eq_singleton {name : String} {rest : List α}
    (h : items.filter (fun item => key item == name) = item :: rest) :
    (firsts key items).filter (fun item => key item == name) = [item] := by
  have hsame : ∀ other ∈ item :: rest, key other = name := by
    intro other hother
    rw [← h] at hother
    exact beq_iff_eq.1 (List.mem_filter.1 hother).2
  rw [filter_firsts fun _ _ _ _ hkey => by rw [hkey], h, firsts, List.filter_eq_nil_iff.2]
  intro other hother
  have hkey := hsame other (List.mem_cons_of_mem _ (mem_of_mem_firsts hother))
  simp [hkey, hsame item List.mem_cons_self]

/-- What stands first in its list and behind what has other keys stands behind the first
items of these. -/
theorem firsts_append_cons {before after : List α} (h : ∀ other ∈ before, key other ≠ key item) :
    ∃ rest, firsts key (before ++ item :: after) = firsts key before ++ item :: rest := by
  induction before with
  | nil => exact ⟨_, rfl⟩
  | cons first before ih =>
    obtain ⟨rest, hrest⟩ := ih fun other hother => h other (List.mem_cons_of_mem _ hother)
    have hitem : (key item != key first) = true := by
      simpa using (h first List.mem_cons_self).symm
    refine ⟨rest.filter fun other => key other != key first, ?_⟩
    rw [List.cons_append, firsts, hrest, List.filter_append, List.filter_cons, if_pos hitem]
    rfl

end Firsts

/-! ## Discovered methods -/

namespace ClassDecl

variable {decl : ClassDecl} {found : Discovered} {property : String}

/-- The methods of all layers, in the order of discovery. -/
def allMethods (decl : ClassDecl) : List Discovered := decl.methodLayers.flatMap layerMethods

theorem mem_allMethods : found ∈ decl.allMethods ↔
    ∃ layer, decl.HasLayer layer ∧ found.method ∈ layer.decl.methods ∧
      found.method.bridge = false ∧ found = ⟨found.method, layer.decl.name, layer.env⟩ := by
  unfold allMethods layerMethods
  simp only [List.mem_flatMap, mem_methodLayers, List.mem_map, List.mem_filter]
  constructor
  · rintro ⟨layer, hlayer, method, ⟨hmethod, hbridge⟩, rfl⟩
    exact ⟨layer, hlayer, hmethod, by simpa using hbridge, rfl⟩
  · rintro ⟨layer, hlayer, hmethod, hbridge, hfound⟩
    exact ⟨layer, hlayer, found.method, ⟨hmethod, by simpa using hbridge⟩, hfound.symm⟩

theorem mem_allMethods_of_mem_discovered (h : found ∈ decl.discovered) :
    found ∈ decl.allMethods :=
  mem_of_mem_firsts h

/-- What holds of the methods of every layer holds of all methods. -/
theorem forall_mem_allMethods {p : MethodDecl → Prop}
    (h : ∀ layer, decl.HasLayer layer → ∀ method ∈ layer.decl.methods, p method) :
    ∀ found ∈ decl.allMethods, p found.method := by
  intro found hfound
  obtain ⟨layer, hlayer, hmethod, -⟩ := mem_allMethods.1 hfound
  exact h layer hlayer found.method hmethod

theorem SeparatorFree.of_mem (h : decl.SeparatorFree) (hfound : found ∈ decl.allMethods) :
    found.method.SeparatorFree :=
  forall_mem_allMethods h found hfound

/-- For every method of the hierarchy there is a discovered one of the same name with
as many parameters. -/
theorem exists_discovered (h : decl.SeparatorFree) (hfound : found ∈ decl.allMethods) :
    ∃ kept ∈ decl.discovered, kept.method.name = found.method.name ∧
      kept.method.params.length = found.method.params.length := by
  obtain ⟨kept, hkept, hsame⟩ :=
    exists_mem_firsts (fun found : Discovered => found.method.signature) hfound
  have hfree := h.of_mem (mem_allMethods_of_mem_discovered hkept)
  obtain ⟨-, hname, htexts⟩ := MethodDecl.signature_inj hfree (h.of_mem hfound) hsame
  refine ⟨kept, hkept, hname, ?_⟩
  simpa [MethodDecl.paramTexts] using congrArg List.length htexts

end ClassDecl

/-- A method stands for a property if its name does and the property's name is valid. -/
theorem Discovered.property?_eq_some {found : Discovered} {property : String} :
    found.property? = some property ↔
      PropertyName.ofAccessor found.method.name = .ok property ∧
        PropertyName.isValid property = true := by
  unfold Discovered.property?
  split
  · rename_i name hname
    rw [hname]
    constructor
    · intro h
      split at h
      · rename_i hvalid
        cases h
        exact ⟨rfl, hvalid⟩
      · cases h
    · rintro ⟨hproperty, hvalid⟩
      cases hproperty
      rw [if_pos hvalid]
  · rename_i error herror
    simp [herror]

end DynamicSql

/-!
# Entries: names with values, in the order of first insertion

Mappings, bindings, object slots and property tables all keep their entries in
insertion order: a new name goes to the end, a name that is already present
keeps its place and takes the new value.  The small laws of `get?` and `put`
stand here, so that later proofs never unfold them.
-/

namespace DynamicSql

/-- A list of named values; the first entry of a name is the one that counts. -/
abbrev Entries (α : Type) := List (String × α)

namespace Entries

variable {α β : Type}

/-- The value stored under `name`. -/
def get? : Entries α → String → Option α
  | [], _ => none
  | (key, value) :: rest, name => if key = name then some value else get? rest name

/-- Store `value` under `name`: in the old place if the name is present, at the
end otherwise. -/
def put : Entries α → String → α → Entries α
  | [], name, value => [(name, value)]
  | (key, old) :: rest, name, value =>
    if key = name then (key, value) :: rest else (key, old) :: put rest name value

/-- Store `value` under `name` only if the name is absent. -/
def putNew (entries : Entries α) (name : String) (value : α) : Entries α :=
  match entries.get? name with
  | some _ => entries
  | none => entries ++ [(name, value)]

/-- The names, in order. -/
def keys (entries : Entries α) : List String := entries.map Prod.fst

/-- Whether `name` has a value. -/
def contains (entries : Entries α) (name : String) : Bool := (entries.get? name).isSome

/-- Entries from a list of pairs: a repeated name keeps its first place and its
last value. -/
def ofList (pairs : List (String × α)) : Entries α :=
  pairs.foldl (fun entries pair => entries.put pair.1 pair.2) []

/-- Insert into entries that are sorted by name; an equal name takes the new value. -/
def insertSorted : Entries α → String → α → Entries α
  | [], name, value => [(name, value)]
  | (key, old) :: rest, name, value =>
    if name < key then (name, value) :: (key, old) :: rest
    else if name = key then (name, value) :: rest
    else (key, old) :: insertSorted rest name value

/-- The entries sorted by name; of several entries with one name the last stays. -/
def sorted (entries : Entries α) : Entries α :=
  entries.foldl (fun sorted entry => sorted.insertSorted entry.1 entry.2) []

/-! ## Laws of look-up and insertion -/

@[simp] theorem get?_nil (name : String) : get? ([] : Entries α) name = none := rfl

@[simp] theorem get?_put_self (entries : Entries α) (name : String) (value : α) :
    (entries.put name value).get? name = some value := by
  induction entries with
  | nil => simp [put, get?]
  | cons entry rest ih =>
    by_cases h : entry.1 = name <;> simp [put, get?, h, ih]

theorem get?_put_of_ne (entries : Entries α) {name other : String} (value : α)
    (h : other ≠ name) : (entries.put name value).get? other = entries.get? other := by
  induction entries with
  | nil => simp [put, get?, h.symm]
  | cons entry rest ih =>
    by_cases hk : entry.1 = name
    · simp [put, get?, hk, h.symm]
    · by_cases ho : entry.1 = other
      · simp [put, get?, ho, h]
      · simp [put, get?, hk, ho, ih]

theorem put_eq_self {entries : Entries α} {name : String} {value : α}
    (h : entries.get? name = some value) : entries.put name value = entries := by
  induction entries with
  | nil => simp at h
  | cons entry rest ih =>
    by_cases hk : entry.1 = name
    · simp only [get?, if_pos hk, Option.some.injEq] at h
      rw [put, if_pos hk, ← h]
    · simp only [get?, if_neg hk] at h
      simp [put, hk, ih h]

theorem get?_append (entries more : Entries α) (name : String) :
    get? (entries ++ more) name = (entries.get? name).or (more.get? name) := by
  induction entries with
  | nil => rfl
  | cons entry rest ih =>
    by_cases h : entry.1 = name <;> simp [get?, h, ih]

theorem get?_putNew (entries : Entries α) (key name : String) (value : α) :
    (entries.putNew key value).get? name =
      (entries.get? name).or (if key = name then some value else none) := by
  unfold putNew
  cases hfound : entries.get? key with
  | none => rw [get?_append]; rfl
  | some old =>
    by_cases h : key = name
    · simp [← h, hfound]
    · simp [h]

theorem mem_keys_iff {entries : Entries α} {name : String} :
    name ∈ entries.keys ↔ (entries.get? name).isSome := by
  induction entries with
  | nil => simp [keys]
  | cons entry rest ih =>
    by_cases hk : entry.1 = name
    · simp [keys, get?, hk]
    · have : name ≠ entry.1 := fun h => hk h.symm
      simpa [keys, get?, hk, this] using ih

theorem put_of_not_mem_keys {entries : Entries α} {name : String} (h : name ∉ entries.keys)
    (value : α) : entries.put name value = entries ++ [(name, value)] := by
  induction entries with
  | nil => rfl
  | cons entry rest ih =>
    rw [keys, List.map_cons, List.mem_cons, not_or] at h
    rw [put, if_neg (Ne.symm h.1), ih h.2]
    rfl

theorem putNew_eq (entries : Entries α) (name : String) (value : α) :
    entries.putNew name value =
      if entries.contains name then entries else entries.put name value := by
  unfold putNew contains
  cases h : entries.get? name with
  | some old => rfl
  | none =>
    have hnew : name ∉ entries.keys := by
      simp [mem_keys_iff, h]
    rw [put_of_not_mem_keys hnew]
    rfl

/-- Pairs whose names are distinct are entries already. -/
theorem ofList_eq_self {pairs : List (String × α)} (h : (keys pairs).Nodup) :
    ofList pairs = pairs := by
  have hfold : ∀ pairs entries : Entries α, (keys (entries ++ pairs)).Nodup →
      pairs.foldl (fun entries pair => entries.put pair.1 pair.2) entries = entries ++ pairs := by
    intro pairs
    induction pairs with
    | nil => simp
    | cons pair rest ih =>
      intro entries hnodup
      have hnew : pair.1 ∉ keys entries := by
        intro hmem
        rw [keys, List.map_append, List.nodup_append] at hnodup
        exact hnodup.2.2 _ hmem _ List.mem_cons_self rfl
      rw [List.foldl_cons, put_of_not_mem_keys hnew, ih _ (by simpa using hnodup)]
      simp
  exact hfold pairs [] h

theorem mem_keys_cons {entry : String × α} {rest : Entries α} {name : String} :
    name ∈ keys (entry :: rest) ↔ name = entry.1 ∨ name ∈ keys rest := List.mem_cons

theorem mem_keys_put {entries : Entries α} {name other : String} {value : α} :
    other ∈ (entries.put name value).keys ↔ other = name ∨ other ∈ entries.keys := by
  rw [mem_keys_iff, mem_keys_iff]
  by_cases h : other = name
  · simp [h]
  · rw [get?_put_of_ne _ _ h, or_iff_right h]

theorem nodup_keys_put {entries : Entries α} (h : entries.keys.Nodup) (name : String)
    (value : α) : (entries.put name value).keys.Nodup := by
  induction entries with
  | nil => exact List.nodup_cons.2 ⟨List.not_mem_nil, List.nodup_nil⟩
  | cons entry rest ih =>
    obtain ⟨hfirst, hrest⟩ := List.nodup_cons.1 h
    rw [put]
    split
    · exact h
    · rename_i hne
      refine List.nodup_cons.2 ⟨fun hmem => ?_, ih hrest⟩
      exact (mem_keys_put.1 hmem).elim hne hfirst

/-- Steps that each enter one name enter the names of all pairs. -/
theorem mem_keys_foldl {step : Entries α → String × α → Entries α} {name : String}
    (hstep : ∀ entries pair, name ∈ (step entries pair).keys ↔ name = pair.1 ∨ name ∈ entries.keys)
    (pairs before : Entries α) :
    name ∈ (pairs.foldl step before).keys ↔ name ∈ before.keys ∨ name ∈ keys pairs := by
  induction pairs generalizing before with
  | nil => exact (or_iff_left List.not_mem_nil).symm
  | cons pair rest ih => rw [List.foldl_cons, ih, hstep, mem_keys_cons, or_assoc, or_left_comm]

theorem mem_keys_ofList {pairs : List (String × α)} {name : String} :
    name ∈ (ofList pairs).keys ↔ name ∈ keys pairs :=
  (mem_keys_foldl (fun _ _ => mem_keys_put) pairs []).trans (or_iff_right List.not_mem_nil)

theorem mem_of_get? {entries : Entries α} {name : String} {value : α}
    (h : entries.get? name = some value) : (name, value) ∈ entries := by
  induction entries with
  | nil => simp at h
  | cons entry rest ih =>
    obtain ⟨key, old⟩ := entry
    by_cases hk : key = name
    · simp only [get?, if_pos hk, Option.some.injEq] at h
      rw [hk, h]
      exact List.mem_cons_self
    · simp only [get?, if_neg hk] at h
      exact List.mem_cons_of_mem _ (ih h)

theorem get?_of_mem {entries : Entries α} {name : String} {value : α}
    (hnodup : entries.keys.Nodup) (h : (name, value) ∈ entries) :
    entries.get? name = some value := by
  induction entries with
  | nil => exact absurd h List.not_mem_nil
  | cons entry rest ih =>
    obtain ⟨hfirst, hrest⟩ := List.nodup_cons.1 hnodup
    rcases List.mem_cons.1 h with rfl | h
    · rw [get?, if_pos rfl]
    · have hne : entry.1 ≠ name := by
        rintro rfl
        exact hfirst (List.mem_map.2 ⟨_, h, rfl⟩)
      rw [get?, if_neg hne, ih hrest h]

theorem put_put (entries : Entries α) (name : String) (old value : α) :
    (entries.put name old).put name value = entries.put name value := by
  induction entries with
  | nil => simp [put]
  | cons entry rest ih =>
    by_cases hk : entry.1 = name <;> simp [put, hk, ih]

theorem put_map (f : α → β) (entries : Entries α) (name : String) (value : α) :
    put (entries.map fun entry => (entry.1, f entry.2)) name (f value) =
      (entries.put name value).map fun entry => (entry.1, f entry.2) := by
  induction entries with
  | nil => rfl
  | cons entry rest ih =>
    by_cases hk : entry.1 = name <;> simp [put, hk, ih]

theorem get?_map (f : α → β) (entries : Entries α) (name : String) :
    get? (entries.map fun entry => (entry.1, f entry.2)) name = (entries.get? name).map f := by
  induction entries with
  | nil => rfl
  | cons entry rest ih =>
    by_cases hk : entry.1 = name <;> simp [get?, hk, ih]

/-- Of the items that are stored under one name the last counts. -/
theorem get?_foldl_put (key : β → String) (value : β → α) (items : List β) (before : Entries α)
    (name : String) :
    get? (items.foldl (fun entries item => entries.put (key item) (value item)) before) name =
      ((items.reverse.find? fun item => key item == name).map value).or (before.get? name) := by
  induction items generalizing before with
  | nil => rfl
  | cons first rest ih =>
    rw [List.foldl_cons, ih, List.reverse_cons, List.find?_append, Option.map_or, Option.or_assoc]
    congr 1
    by_cases hkey : key first = name
    · simp [hkey]
    · rw [get?_put_of_ne _ _ (Ne.symm hkey)]
      simp [hkey]

theorem keys_filter_ne (entries : Entries α) (name : String) :
    keys (entries.filter fun entry => entry.1 != name) =
      (keys entries).filter (· != name) := by
  unfold keys
  rw [List.filter_map]
  rfl

/-- Leaving out a name without an entry leaves out nothing. -/
theorem filter_ne_of_get?_eq_none {entries : Entries α} {name : String}
    (h : entries.get? name = none) : entries.filter (fun entry => entry.1 != name) = entries := by
  rw [List.filter_eq_self]
  intro entry hentry
  have hne : entry.1 ≠ name := by
    rintro rfl
    have hmem : entry.1 ∈ entries.keys := List.mem_map_of_mem hentry
    rw [mem_keys_iff, h] at hmem
    cases hmem
  simpa using hne

/-! ## Laws of sorting -/

theorem mem_keys_insertSorted {entries : Entries α} {name other : String} {value : α} :
    other ∈ (entries.insertSorted name value).keys ↔ other = name ∨ other ∈ entries.keys := by
  induction entries with
  | nil => simp [insertSorted, keys]
  | cons entry rest ih =>
    rw [insertSorted]
    split
    · rw [mem_keys_cons]
    · split
      · rename_i heq
        rw [mem_keys_cons, mem_keys_cons, heq, or_self_left]
      · rw [mem_keys_cons, ih, mem_keys_cons, or_left_comm]

theorem pairwise_insertSorted {entries : Entries α} (h : entries.keys.Pairwise (· < ·))
    (name : String) (value : α) : (entries.insertSorted name value).keys.Pairwise (· < ·) := by
  induction entries with
  | nil => exact List.pairwise_singleton _ _
  | cons entry rest ih =>
    obtain ⟨hfirst, hrest⟩ := List.pairwise_cons.1 h
    rw [insertSorted]
    split
    · rename_i hlt
      refine List.pairwise_cons.2 ⟨fun key hkey => ?_, h⟩
      rcases List.mem_cons.1 hkey with rfl | hkey
      · exact hlt
      · exact String.lt_trans hlt (hfirst key hkey)
    · rename_i hge
      split
      · rename_i heq
        subst heq
        exact List.pairwise_cons.2 ⟨hfirst, hrest⟩
      · rename_i hne
        have hlt : entry.1 < name := by
          refine Decidable.byContradiction fun hnot => hne ?_
          exact String.le_antisymm (String.not_lt.1 hnot) (String.not_lt.1 hge)
        refine List.pairwise_cons.2 ⟨fun key hkey => ?_, ih hrest⟩
        rcases mem_keys_insertSorted.1 hkey with rfl | hkey
        · exact hlt
        · exact hfirst key hkey

theorem pairwise_keys_sorted (entries : Entries α) :
    (sorted entries).keys.Pairwise (· < ·) :=
  List.foldlRecOn (motive := fun sorted => (keys sorted).Pairwise (· < ·)) entries _
    List.Pairwise.nil fun _ h entry _ => pairwise_insertSorted h entry.1 entry.2

theorem mem_keys_sorted {entries : Entries α} {name : String} :
    name ∈ (sorted entries).keys ↔ name ∈ entries.keys :=
  (mem_keys_foldl (fun _ _ => mem_keys_insertSorted) entries []).trans
    (or_iff_right List.not_mem_nil)

theorem insertSorted_of_forall_lt {entries : Entries α} {name : String}
    (h : ∀ key ∈ entries.keys, key < name) (value : α) :
    entries.insertSorted name value = entries ++ [(name, value)] := by
  induction entries with
  | nil => rfl
  | cons entry rest ih =>
    have hlt : entry.1 < name := h entry.1 List.mem_cons_self
    have hne : name ≠ entry.1 := by
      intro heq
      exact String.lt_irrefl name (heq ▸ hlt)
    rw [insertSorted, if_neg (String.lt_asymm hlt), if_neg hne,
      ih fun key hkey => h key (List.mem_cons_of_mem _ hkey)]
    rfl

/-- Entries whose names ascend are sorted already. -/
theorem sorted_eq_self {entries : Entries α} (h : entries.keys.Pairwise (· < ·)) :
    sorted entries = entries := by
  have hfold : ∀ entries before : Entries α, (keys (before ++ entries)).Pairwise (· < ·) →
      entries.foldl (fun sorted entry => sorted.insertSorted entry.1 entry.2) before =
        before ++ entries := by
    intro entries
    induction entries with
    | nil => simp
    | cons entry rest ih =>
      intro before hpairwise
      have hlast : ∀ key ∈ keys before, key < entry.1 := by
        intro key hkey
        rw [keys, List.map_append, List.pairwise_append] at hpairwise
        exact hpairwise.2.2 key hkey entry.1 List.mem_cons_self
      rw [List.foldl_cons, insertSorted_of_forall_lt hlast, ih _ (by simpa using hpairwise)]
      simp
  exact hfold entries [] h

theorem insertSorted_perm {entries : Entries α} {name : String} (h : name ∉ entries.keys)
    (value : α) : (entries.insertSorted name value).Perm ((name, value) :: entries) := by
  induction entries with
  | nil => exact List.Perm.refl _
  | cons entry rest ih =>
    rw [mem_keys_cons, not_or] at h
    rw [insertSorted, if_neg h.1]
    split
    · exact List.Perm.refl _
    · exact (List.Perm.cons entry (ih h.2)).trans (List.Perm.swap _ _ rest)

/-- Entries with distinct names are only brought into order. -/
theorem sorted_perm {entries : Entries α} (h : entries.keys.Nodup) :
    (sorted entries).Perm entries := by
  have hfold : ∀ entries before : Entries α, (keys (entries ++ before)).Nodup →
      (entries.foldl (fun sorted entry => sorted.insertSorted entry.1 entry.2) before).Perm
        (entries ++ before) := by
    intro entries
    induction entries with
    | nil => exact fun before _ => List.Perm.refl before
    | cons entry rest ih =>
      intro before hnodup
      have hnew : entry.1 ∉ keys before := by
        intro hmem
        rw [List.cons_append, keys, List.map_cons, List.nodup_cons, List.map_append] at hnodup
        exact hnodup.1 (List.mem_append_right _ hmem)
      have hinsert : (before.insertSorted entry.1 entry.2).Perm (entry :: before) :=
        insertSorted_perm hnew entry.2
      have hmiddle : (rest ++ entry :: before).Perm (entry :: (rest ++ before)) :=
        List.perm_middle
      have hnext : (rest ++ before.insertSorted entry.1 entry.2).Perm
          (entry :: (rest ++ before)) := (hinsert.append_left rest).trans hmiddle
      exact (ih _ ((hnext.map Prod.fst).nodup_iff.2 hnodup)).trans hnext
  have hsorted := hfold entries [] (by rwa [List.append_nil])
  rwa [List.append_nil] at hsorted

theorem mem_insertSorted {entries : Entries α} {name : String} {value : α} {entry : String × α}
    (h : entry ∈ entries.insertSorted name value) : entry = (name, value) ∨ entry ∈ entries := by
  induction entries with
  | nil => exact .inl (List.mem_singleton.1 h)
  | cons first rest ih =>
    rw [insertSorted] at h
    split at h
    · exact List.mem_cons.1 h
    · split at h
      · exact (List.mem_cons.1 h).imp_right (List.mem_cons_of_mem _)
      · rcases List.mem_cons.1 h with rfl | h
        · exact .inr List.mem_cons_self
        · exact (ih h).imp_right (List.mem_cons_of_mem _)

/-- Sorting invents no entry. -/
theorem mem_of_mem_sorted {entries : Entries α} {entry : String × α}
    (h : entry ∈ sorted entries) : entry ∈ entries := by
  have hfold : ∀ entries before : Entries α,
      entry ∈ entries.foldl (fun sorted entry => sorted.insertSorted entry.1 entry.2) before →
        entry ∈ before ∨ entry ∈ entries := by
    intro entries
    induction entries with
    | nil => exact fun before h => .inl h
    | cons first rest ih =>
      intro before h
      rcases ih _ h with h | h
      · rcases mem_insertSorted h with rfl | h
        · exact .inr List.mem_cons_self
        · exact .inl h
      · exact .inr (List.mem_cons_of_mem _ h)
  exact (hfold entries [] h).resolve_left List.not_mem_nil

/-- Sorted entries whose values were made from others come from entries of these. -/
theorem mem_sorted_map {β : Type} {f : α → β} {entries : Entries α} {entry : String × β}
    (h : entry ∈ sorted (entries.map fun source => (source.1, f source.2))) :
    ∃ source ∈ entries, entry = (source.1, f source.2) := by
  obtain ⟨source, hsource, rfl⟩ := List.mem_map.1 (mem_of_mem_sorted h)
  exact ⟨source, hsource, rfl⟩

end Entries

end DynamicSql

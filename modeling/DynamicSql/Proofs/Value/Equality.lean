import DynamicSql.Proofs.Decimal.Order
import DynamicSql.Proofs.Value.Parts
import Mathlib.Data.List.Perm.Subperm

/-!
# Equal values stand for the same

Equality compares numbers of two kinds and mappings in any order, and the two sides of it are
not treated alike.  But two values are equal exactly if they stand for the same
(`same_iff_meaning`), and from this all of it follows: equality is reflexive, symmetric and
transitive, it looks at numbers only as numbers, equal values can stand for each other at every
place of every container, and the order of names is nothing to it (`same_equivalence`).
-/

namespace DynamicSql

/-! ## Entries in any order -/

namespace Entries

variable {α : Type} {entries others : Entries α}

theorem nodup_of_nodup_keys (h : entries.keys.Nodup) : entries.Nodup :=
  (List.pairwise_map.1 h).imp fun hne heq => hne (congrArg Prod.fst heq)

/-- As many entries with distinct names are the same ones if each is found under its name. -/
theorem perm_iff_get? (hentries : entries.keys.Nodup) (hothers : others.keys.Nodup) :
    entries.Perm others ↔
      entries.length = others.length ∧
        ∀ entry ∈ entries, others.get? entry.1 = some entry.2 := by
  constructor
  · intro h
    refine ⟨h.length_eq, fun entry hentry => ?_⟩
    exact get?_of_mem hothers (h.subset hentry)
  · rintro ⟨hlength, hfound⟩
    have hsubset : entries ⊆ others := fun entry hentry => mem_of_get? (hfound entry hentry)
    have hsubperm := List.subperm_of_subset (nodup_of_nodup_keys hentries) hsubset
    exact hsubperm.perm_of_length_le hlength.ge

/-- Entries with distinct names are the same in order if they are the same in any order. -/
theorem sorted_eq_iff_perm (hentries : entries.keys.Nodup) (hothers : others.keys.Nodup) :
    sorted entries = sorted others ↔ entries.Perm others := by
  constructor
  · intro h
    have hsorted : (sorted entries).Perm others := h ▸ sorted_perm hothers
    exact (sorted_perm hentries).symm.trans hsorted
  · intro h
    have hperm : (sorted entries).Perm (sorted others) :=
      (sorted_perm hentries).trans (h.trans (sorted_perm hothers).symm)
    have hascending : ∀ entries : Entries α,
        (sorted entries).Pairwise fun entry other => entry.1 < other.1 := fun entries =>
      List.pairwise_map.1 (pairwise_keys_sorted entries)
    refine hperm.eq_of_pairwise ?_ (hascending entries) (hascending others)
    intro entry other _ _ hlt hgt
    exact absurd hgt (String.lt_asymm hlt)

end Entries

namespace Value

/-! ## The parts of a meaning -/

theorem meanings_eq (items : List Value) : meanings items = items.map meaning := by
  induction items with
  | nil => rfl
  | cons item rest ih => rw [meanings, ih, List.map_cons]

theorem entryMeanings_eq (entries : Entries Value) :
    entryMeanings entries = entries.map fun entry => (entry.1, entry.2.meaning) := by
  induction entries with
  | nil => rfl
  | cons entry rest ih => rw [entryMeanings, ih, List.map_cons]

theorem keys_entryMeanings (entries : Entries Value) :
    Entries.keys (entryMeanings entries) = entries.keys := by
  rw [entryMeanings_eq, Entries.keys, List.map_map]
  rfl

/-- A number is an integer or a decimal. -/
theorem number?_cases {value : Value} {q : Rat} (h : value.number? = some q) :
    (∃ i : Int64, value = integer i ∧ mkRat i.toInt 1 = q) ∨
      ∃ d : Decimal, value = decimal d ∧ d.toRat = q := by
  cases value with
  | integer i => exact .inl ⟨i, rfl, Option.some.inj h⟩
  | decimal d => exact .inr ⟨d, rfl, Option.some.inj h⟩
  | _ => cases h

/-- A number stands for its number. -/
theorem meaning_of_number? {value : Value} {q : Rat} (h : value.number? = some q) :
    value.meaning = .number q := by
  obtain ⟨i, rfl, rfl⟩ | ⟨d, rfl, rfl⟩ := number?_cases h <;> rfl

/-- Mappings stand for the same if they have the same names, whose values stand for the
same. -/
theorem meaning_map_eq_iff {entries others : Entries Value} (hentries : entries.keys.Nodup)
    (hothers : others.keys.Nodup) :
    (map entries).meaning = (map others).meaning ↔
      entries.length = others.length ∧ ∀ entry ∈ entries, ∃ value,
        others.get? entry.1 = some value ∧ entry.2.meaning = value.meaning := by
  rw [← keys_entryMeanings] at hentries hothers
  simp only [meaning, Meaning.map.injEq]
  rw [Entries.sorted_eq_iff_perm hentries hothers, Entries.perm_iff_get? hentries hothers]
  simp only [entryMeanings_eq, List.length_map, List.forall_mem_map, Entries.get?_map,
    Option.map_eq_some_iff]
  simp only [eq_comm]

/-! ## Equality is having the same meaning -/

/-- Two numbers are equal exactly if they are the same number, of whatever kinds they are. -/
theorem same_iff_number? {a b : Value} {p q : Rat} (ha : a.number? = some p)
    (hb : b.number? = some q) : a.same b = true ↔ p = q := by
  obtain ⟨i, rfl, rfl⟩ | ⟨d, rfl, rfl⟩ := number?_cases ha <;>
    obtain ⟨j, rfl, rfl⟩ | ⟨e, rfl, rfl⟩ := number?_cases hb
  · rw [same, beq_iff_eq, Rat.mkRat_eq_iff one_ne_zero one_ne_zero, ← Int64.toInt_inj]
    simp
  · rw [same, Decimal.same_iff_toRat, Decimal.toRat_ofInt64]
  · rw [same, Decimal.same_iff_toRat, Decimal.toRat_ofInt64]
    exact eq_comm
  · exact Decimal.same_iff_toRat

theorem same_iff_meaning_of_numbers {a b : Value} {p q : Rat} (ha : a.number? = some p)
    (hb : b.number? = some q) : a.same b = true ↔ a.meaning = b.meaning := by
  rw [meaning_of_number? ha, meaning_of_number? hb, Meaning.number.injEq]
  exact same_iff_number? ha hb

theorem sameItems_iff {items others : List Value}
    (h : ∀ item ∈ items, ∀ other ∈ others,
      item.same other = true ↔ item.meaning = other.meaning) :
    sameItems items others = true ↔ items.map meaning = others.map meaning := by
  induction items generalizing others with
  | nil => cases others <;> simp [sameItems]
  | cons item rest ih =>
    cases others with
    | nil => simp [sameItems]
    | cons other more =>
      have hfirst := h item List.mem_cons_self other List.mem_cons_self
      have hrest : sameItems rest more = true ↔ rest.map meaning = more.map meaning :=
        ih fun item hitem other hother =>
          h item (List.mem_cons_of_mem _ hitem) other (List.mem_cons_of_mem _ hother)
      simp [sameItems, hfirst, hrest]

/-- **Two values are equal exactly if they stand for the same.** -/
theorem same_iff_meaning {a b : Value} (ha : a.hasDistinctKeys = true)
    (hb : b.hasDistinctKeys = true) : a.same b = true ↔ a.meaning = b.meaning := by
  induction a using partsInduction generalizing b with
  | list items ih =>
    cases b with
    | list others =>
      rw [hasDistinctKeys, itemsDistinct_iff] at ha hb
      simp only [same, meaning, Meaning.list.injEq, meanings_eq]
      exact sameItems_iff fun item hitem other hother =>
        ih item hitem (ha item hitem) (hb other hother)
    | _ => simp [same, meaning]
  | map entries ih =>
    cases b with
    | map others =>
      rw [hasDistinctKeys, entriesDistinct_iff] at ha hb
      rw [meaning_map_eq_iff ha.1 hb.1, same, Bool.and_eq_true, beq_iff_eq, sameEntries_iff]
      refine and_congr_right fun _ => forall₂_congr fun entry hentry => exists_congr fun value => ?_
      refine and_congr_right fun hvalue => ?_
      exact ih entry hentry (ha.2 entry hentry) (hb.2 _ (Entries.mem_of_get? hvalue))
    | _ => simp [same, meaning]
  | integer i =>
    cases b with
    | integer j => exact same_iff_meaning_of_numbers rfl rfl
    | decimal d => exact same_iff_meaning_of_numbers rfl rfl
    | _ => simp [same, meaning]
  | decimal d =>
    cases b with
    | integer j => exact same_iff_meaning_of_numbers rfl rfl
    | decimal e => exact same_iff_meaning_of_numbers rfl rfl
    | _ => simp [same, meaning]
  | _ => cases b <;> simp [same, meaning]

/-! ## Values inside containers -/

theorem Frame.meaning_fill {a b : Value} (frame : Frame) (h : a.meaning = b.meaning) :
    (frame.fill a).meaning = (frame.fill b).meaning := by
  cases frame <;> simp [fill, meaning, meanings_eq, entryMeanings_eq, h]

/-- Any proper value can stand where a container is proper with another one. -/
theorem Frame.hasDistinctKeys_fill {a : Value} {frame : Frame}
    (h : (frame.fill a).hasDistinctKeys = true) :
    a.hasDistinctKeys = true ∧
      ∀ b : Value, b.hasDistinctKeys = true → (frame.fill b).hasDistinctKeys = true := by
  cases frame with
  | item before after =>
    simp only [fill, hasDistinctKeys, itemsDistinct_iff, List.forall_mem_append,
      List.forall_mem_cons] at h ⊢
    exact ⟨h.2.1, fun b hb => ⟨h.1, hb, h.2.2⟩⟩
  | entry before name after =>
    simp only [fill, hasDistinctKeys, entriesDistinct_iff, List.forall_mem_append,
      List.forall_mem_cons, Entries.keys, List.map_append, List.map_cons] at h ⊢
    exact ⟨h.2.2.1, fun b hb => ⟨h.1, h.2.1, hb, h.2.2.2⟩⟩

namespace Surroundings

variable {a b : Value} {around : Surroundings}

/-- What stands for the same does so in every place. -/
theorem meaning_fill (h : a.meaning = b.meaning) (around : Surroundings) :
    (around.fill a).meaning = (around.fill b).meaning := by
  induction around with
  | nil => exact h
  | cons frame rest ih => exact frame.meaning_fill ih

theorem hasDistinctKeys_inside (h : (around.fill a).hasDistinctKeys = true) :
    a.hasDistinctKeys = true := by
  induction around with
  | nil => exact h
  | cons frame rest ih => exact ih (Frame.hasDistinctKeys_fill h).1

theorem hasDistinctKeys_fill (h : (around.fill a).hasDistinctKeys = true)
    (hb : b.hasDistinctKeys = true) : (around.fill b).hasDistinctKeys = true := by
  induction around with
  | nil => exact hb
  | cons frame rest ih =>
    obtain ⟨hinner, houter⟩ := Frame.hasDistinctKeys_fill h
    exact houter _ (ih hinner)

end Surroundings

/-! ## An equivalence -/

/-- **Equality of values is an equivalence.**  Numbers are equal exactly if they are the same
number, whatever their kinds and places; equal values can stand for each other inside all
containers, and nothing is equal to one container without being equal to the other; and the
order of names is nothing to a mapping. -/
theorem same_equivalence :
    Equivalence (fun a b : Proper => a.1.same b.1 = true) ∧
    (∀ (a b : Value) (p q : Rat), a.number? = some p → b.number? = some q →
      (a.same b = true ↔ p = q)) ∧
    (∀ (around : Surroundings) (a b : Value), (around.fill a).hasDistinctKeys = true →
      b.hasDistinctKeys = true → a.same b = true →
        (around.fill b).hasDistinctKeys = true ∧ (around.fill a).same (around.fill b) = true ∧
          ∀ other : Value, other.hasDistinctKeys = true →
            (around.fill a).same other = (around.fill b).same other) ∧
    (∀ entries others : Entries Value, (map entries).hasDistinctKeys = true →
      entries.Perm others →
        (map others).hasDistinctKeys = true ∧ (map entries).same (map others) = true) := by
  refine ⟨⟨?refl, ?symm, ?trans⟩, ?numbers, ?places, ?order⟩
  case refl =>
    intro a
    exact (same_iff_meaning a.2 a.2).2 rfl
  case symm =>
    intro a b h
    exact (same_iff_meaning b.2 a.2).2 ((same_iff_meaning a.2 b.2).1 h).symm
  case trans =>
    intro a b c hab hbc
    have hmeaning : a.1.meaning = b.1.meaning := (same_iff_meaning a.2 b.2).1 hab
    exact (same_iff_meaning a.2 c.2).2 (hmeaning.trans ((same_iff_meaning b.2 c.2).1 hbc))
  case numbers =>
    intro a b p q ha hb
    exact same_iff_number? ha hb
  case places =>
    intro around a b haround hb h
    have hfill : (around.fill b).hasDistinctKeys = true :=
      Surroundings.hasDistinctKeys_fill haround hb
    have ha : a.hasDistinctKeys = true := Surroundings.hasDistinctKeys_inside haround
    have hmeaning : (around.fill a).meaning = (around.fill b).meaning :=
      Surroundings.meaning_fill ((same_iff_meaning ha hb).1 h) around
    refine ⟨hfill, (same_iff_meaning haround hfill).2 hmeaning, fun other hother => ?_⟩
    rw [Bool.eq_iff_iff, same_iff_meaning haround hother, same_iff_meaning hfill hother, hmeaning]
  case order =>
    intro entries others hentries hperm
    obtain ⟨hnodup, hvalues⟩ := entriesDistinct_iff.1 hentries
    have hothers : (map others).hasDistinctKeys = true := by
      refine entriesDistinct_iff.2 ⟨(hperm.map Prod.fst).nodup_iff.1 hnodup, fun entry hentry => ?_⟩
      exact hvalues entry (hperm.mem_iff.2 hentry)
    refine ⟨hothers, (same_iff_meaning hentries hothers).2 ?_⟩
    have hmeanings : (entryMeanings entries).Perm (entryMeanings others) := by
      rw [entryMeanings_eq, entryMeanings_eq]
      exact hperm.map _
    rw [meaning, meaning, (Entries.sorted_eq_iff_perm _ _).2 hmeanings]
    · rwa [keys_entryMeanings]
    · rw [keys_entryMeanings]
      exact (entriesDistinct_iff.1 hothers).1

/-- Three with one place. -/
def threeExact : Value := .decimal (.tenths 30)

/-- The entries of an order, with a place for what is ordered. -/
def orderAround : Surroundings :=
  [.entry [("customer", .string "Ada")] "counts" [("open", .boolean true)],
    .item [.null] [.integer 5]]

/-- Three with a place is three, also as one of the counts of an order; and an order that is
written down from behind is the same order. -/
theorem same_equivalence_order :
    (integer 3).number? = some (mkRat 3 1) ∧ threeExact.number? = some (mkRat 30 10) ∧
      (integer 3).same threeExact = true ∧ threeExact.same (.integer 3) = true ∧
      (orderAround.fill (.integer 3)).hasDistinctKeys = true ∧
      threeExact.hasDistinctKeys = true ∧
      (orderAround.fill (.integer 3)).same (orderAround.fill threeExact) = true ∧
      (map [("lines", .list [.integer 3]), ("open", .null)]).hasDistinctKeys = true ∧
      (map [("lines", .list [.integer 3]), ("open", .null)]).same
        (.map [("open", .null), ("lines", .list [.integer 3])]) = true := by
  obtain ⟨hequivalence, hnumbers, hplaces, horder⟩ := same_equivalence
  have hexact : threeExact.number? = some (mkRat 30 10) :=
    congrArg some (Decimal.toRat_tenths 30)
  have hnumber : mkRat 3 1 = mkRat 30 10 := (Rat.mkRat_eq_iff (by decide) (by decide)).2 rfl
  have hthree : (integer 3).same threeExact = true := (hnumbers _ _ _ _ rfl hexact).2 hnumber
  have hback : threeExact.same (.integer 3) = true :=
    hequivalence.symm (x := ⟨.integer 3, rfl⟩) (y := ⟨threeExact, rfl⟩) hthree
  have hcount := (hplaces orderAround (.integer 3) threeExact (by decide) rfl hthree).2.1
  have hturned := (horder [("lines", .list [.integer 3]), ("open", .null)] _ (by decide)
    (List.Perm.swap _ _ [])).2
  exact ⟨rfl, hexact, hthree, hback, by decide, rfl, hcount, by decide, hturned⟩

end Value

end DynamicSql

import DynamicSql.Json.Contents

/-!
# Documents as their readers see them

Sorting the members of every object brings a document into the form that its reader sees
(`isSorted_canonical`) and leaves a document of that form as it is (`canonical_eq_self`).
-/

namespace DynamicSql.Json

/-! ## Induction and tests -/

/-- What holds of a document when it holds of its parts holds of every document. -/
@[elab_as_elim]
theorem partsInduction {motive : Json → Prop} (null : motive .null)
    (bool : ∀ b, motive (.bool b)) (number : ∀ n, motive (.number n))
    (string : ∀ s, motive (.string s))
    (array : ∀ items, (∀ item ∈ items, motive item) → motive (.array items))
    (object : ∀ members, (∀ member ∈ members, motive member.2) → motive (.object members))
    (json : Json) : motive json := by
  refine Json.rec (motive_1 := motive) (motive_2 := fun items => ∀ item ∈ items, motive item)
    (motive_3 := fun members => ∀ member ∈ members, motive member.2)
    (motive_4 := fun member => motive member.2) null bool number string array object ?_ ?_ ?_ ?_
    ?_ json
  · exact fun item hitem => absurd hitem List.not_mem_nil
  · exact fun first rest hfirst hrest => List.forall_mem_cons.2 ⟨hfirst, hrest⟩
  · exact fun member hmember => absurd hmember List.not_mem_nil
  · exact fun first rest hfirst hrest => List.forall_mem_cons.2 ⟨hfirst, hrest⟩
  · exact fun name value hvalue => hvalue

variable {test : Json → Bool}

theorem everyItem_cons {item : Json} {rest : List Json} :
    everyItem test (item :: rest) = (item.everywhere test && everyItem test rest) := rfl

theorem everyMember_cons {member : String × Json} {rest : List (String × Json)} :
    everyMember test (member :: rest) =
      (member.2.everywhere test && everyMember test rest) := rfl

theorem everyItem_iff {items : List Json} :
    everyItem test items = true ↔ ∀ item ∈ items, item.everywhere test = true := by
  induction items with
  | nil => exact iff_of_true rfl fun item hitem => absurd hitem List.not_mem_nil
  | cons item rest ih => simp [everyItem_cons, ih]

theorem everyMember_iff {members : List (String × Json)} :
    everyMember test members = true ↔
      ∀ member ∈ members, member.2.everywhere test = true := by
  induction members with
  | nil => exact iff_of_true rfl fun member hmember => absurd hmember List.not_mem_nil
  | cons member rest ih => simp [everyMember_cons, ih]

theorem everywhere_array {items : List Json} : (Json.array items).everywhere test = true ↔
    test (.array items) = true ∧ ∀ item ∈ items, item.everywhere test = true :=
  Bool.and_eq_true_iff.trans (and_congr_right' everyItem_iff)

theorem everywhere_object {members : List (String × Json)} :
    (Json.object members).everywhere test = true ↔
      test (.object members) = true ∧ ∀ member ∈ members, member.2.everywhere test = true :=
  Bool.and_eq_true_iff.trans (and_congr_right' everyMember_iff)

theorem isSorted_array {items : List Json} :
    (Json.array items).isSorted = true ↔ ∀ item ∈ items, item.isSorted = true :=
  everywhere_array.trans (and_iff_right rfl)

theorem isSorted_object {members : List (String × Json)} :
    (Json.object members).isSorted = true ↔ (Entries.keys members).Pairwise (· < ·) ∧
      ∀ member ∈ members, member.2.isSorted = true :=
  everywhere_object.trans (and_congr_left' decide_eq_true_iff)

theorem everyNumber_array {test : JsonNumber → Bool} {items : List Json} :
    (Json.array items).everyNumber test = true ↔
      ∀ item ∈ items, item.everyNumber test = true :=
  everywhere_array.trans (and_iff_right rfl)

theorem everyNumber_object {test : JsonNumber → Bool} {members : List (String × Json)} :
    (Json.object members).everyNumber test = true ↔
      ∀ member ∈ members, member.2.everyNumber test = true :=
  everywhere_object.trans (and_iff_right rfl)

/-! ## The canonical form -/

theorem canonicalItems_eq (items : List Json) : canonicalItems items = items.map canonical := by
  induction items with
  | nil => rfl
  | cons item rest ih => exact congrArg (item.canonical :: ·) ih

theorem canonicalMembers_eq (members : List (String × Json)) :
    canonicalMembers members = members.map fun member => (member.1, member.2.canonical) := by
  induction members with
  | nil => rfl
  | cons member rest ih => exact congrArg ((member.1, member.2.canonical) :: ·) ih

theorem canonical_array (items : List Json) :
    (Json.array items).canonical = .array (items.map canonical) :=
  congrArg Json.array (canonicalItems_eq items)

theorem canonical_object (members : List (String × Json)) : (Json.object members).canonical =
    .object (Entries.sorted (members.map fun member => (member.1, member.2.canonical))) :=
  congrArg (fun members => Json.object (Entries.sorted members)) (canonicalMembers_eq members)

/-- The canonical form of a document is in order. -/
theorem isSorted_canonical (json : Json) : json.canonical.isSorted = true := by
  induction json using partsInduction with
  | array items ih =>
    rw [canonical_array, isSorted_array]
    exact List.forall_mem_map.2 ih
  | object members ih =>
    rw [canonical_object, isSorted_object]
    refine ⟨Entries.pairwise_keys_sorted _, fun member hmember => ?_⟩
    obtain ⟨source, hsource, rfl⟩ := Entries.mem_sorted_map hmember
    exact ih source hsource
  | _ => rfl

/-- A document that is in order is its own canonical form. -/
theorem canonical_eq_self {json : Json} (h : json.isSorted = true) : json.canonical = json := by
  induction json using partsInduction with
  | array items ih =>
    rw [isSorted_array] at h
    have hitems : items.map canonical = items :=
      (List.map_congr_left fun item hitem => ih item hitem (h item hitem)).trans
        (List.map_id' items)
    rw [canonical_array, hitems]
  | object members ih =>
    rw [isSorted_object] at h
    have hmembers : members.map (fun member => (member.1, member.2.canonical)) = members := by
      refine (List.map_congr_left fun member hmember => ?_).trans members.map_id
      rw [ih member hmember (h.2 member hmember)]
      rfl
    rw [canonical_object, hmembers, Entries.sorted_eq_self h.1]
  | _ => rfl

/-- The canonical form holds no other numbers. -/
theorem everyNumber_canonical {test : JsonNumber → Bool} {json : Json}
    (h : json.everyNumber test = true) : json.canonical.everyNumber test = true := by
  induction json using partsInduction with
  | array items ih =>
    rw [everyNumber_array] at h
    rw [canonical_array, everyNumber_array]
    exact List.forall_mem_map.2 fun item hitem => ih item hitem (h item hitem)
  | object members ih =>
    rw [everyNumber_object] at h
    rw [canonical_object, everyNumber_object]
    intro member hmember
    obtain ⟨source, hsource, rfl⟩ := Entries.mem_sorted_map hmember
    exact ih source hsource (h source hsource)
  | _ => exact h

end DynamicSql.Json

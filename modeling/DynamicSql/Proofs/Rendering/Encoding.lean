import DynamicSql.Proofs.Value.Parts
import DynamicSql.Rendering.Encoding
import DynamicSql.Walk
import Mathlib.Data.List.Basic

/-!
# Encoding replaces the coded objects and keeps the shape

Encoding a value walks through its objects in order.  If all their coders succeed the result
is the value with their outputs in the places of the objects (`encode_eq_ok`); otherwise the
first coder that fails ends the walk with its error (`encode_eq_error`).  So a value without
coded objects is encoded as itself, and encoding twice comes to the same as encoding once where
the coders leave nothing to encode.
-/

namespace DynamicSql

/-! ## Objects in parts -/

namespace Value

theorem itemObjects_eq (items : List Value) : itemObjects items = items.flatMap objects := by
  induction items with
  | nil => rfl
  | cons item rest ih => rw [itemObjects, ih, List.flatMap_cons]

theorem entryObjects_eq (entries : Entries Value) :
    entryObjects entries = entries.flatMap fun entry => entry.2.objects := by
  induction entries with
  | nil => rfl
  | cons entry rest ih => rw [entryObjects, ih, List.flatMap_cons]

theorem mapItems_eq (f : ObjectId → Value) (items : List Value) :
    mapItems f items = items.map (mapObjects f) := by
  induction items with
  | nil => rfl
  | cons item rest ih => rw [mapItems, ih, List.map_cons]

theorem mapEntries_eq (f : ObjectId → Value) (entries : Entries Value) :
    mapEntries f entries = entries.map fun entry => (entry.1, entry.2.mapObjects f) := by
  induction entries with
  | nil => rfl
  | cons entry rest ih => rw [mapEntries, ih, List.map_cons]

/-- The objects that come in the places of objects are those of the values put there. -/
theorem objects_mapObjects (f : ObjectId → Value) (value : Value) :
    (value.mapObjects f).objects = value.objects.flatMap fun id => (f id).objects := by
  induction value using partsInduction with
  | list items ih =>
    simp only [mapObjects, objects, mapItems_eq, itemObjects_eq, List.flatMap_map,
      List.flatMap_assoc]
    exact List.flatMap_congr ih
  | map entries ih =>
    simp only [mapObjects, objects, mapEntries_eq, entryObjects_eq, List.flatMap_map,
      List.flatMap_assoc]
    exact List.flatMap_congr ih
  | object id => simp [mapObjects, objects]
  | _ => rfl

/-- A value in which every object is replaced by itself is the same value. -/
theorem mapObjects_eq_self {f : ObjectId → Value} {value : Value}
    (h : ∀ id ∈ value.objects, f id = .object id) : value.mapObjects f = value := by
  induction value using partsInduction with
  | list items ih =>
    rw [objects, itemObjects_eq] at h
    rw [mapObjects, mapItems_eq]
    congr 1
    refine (List.map_congr_left fun item hitem => ?_).trans (List.map_id' items)
    apply ih item hitem
    intro id hid
    exact h id (List.mem_flatMap.2 ⟨item, hitem, hid⟩)
  | map entries ih =>
    rw [objects, entryObjects_eq] at h
    rw [mapObjects, mapEntries_eq]
    congr 1
    refine (List.map_congr_left fun entry hentry => ?_).trans (List.map_id' entries)
    rw [ih entry hentry]
    intro id hid
    exact h id (List.mem_flatMap.2 ⟨entry, hentry, hid⟩)
  | object id => exact h id (by simp [objects])
  | _ => rfl

end Value

namespace Coders

variable {coders : Coders} {heap : Heap} {value : Value} {id : ObjectId} {error : AccessError}

/-! ## One object -/

@[simp] theorem encode_object : coders.encode heap (.object id) = coders.encodeObject heap id := by
  rw [encode]
  rfl

/-- An object without a coder stays as it is. -/
theorem encodeObject_of_not_covers (h : coders.covers heap (.object id) = false) :
    coders.encodeObject heap id = .ok (.object id) := by
  have hnone : coders.forType? (heap.typeOf id) = none := by simpa [covers, find?] using h
  rw [encodeObject, hnone]

theorem encodes_of_not_covers (h : coders.covers heap (.object id) = false) :
    coders.Encodes heap id := ⟨_, encodeObject_of_not_covers h⟩

theorem replacement_eq (h : coders.encodeObject heap id = .ok value) :
    coders.replacement heap id = value := by
  rw [replacement, h]

theorem not_encodes_of_error (h : coders.encodeObject heap id = .error error) :
    ¬ coders.Encodes heap id := by
  rintro ⟨value, hvalue⟩
  rw [h] at hvalue
  cases hvalue

theorem forall_mem_coded_iff : (∀ id ∈ coders.coded heap value, coders.Encodes heap id) ↔
    ∀ id ∈ value.objects, coders.Encodes heap id := by
  constructor
  · intro h id hid
    by_cases hcovers : coders.covers heap (.object id) = true
    · exact h id (List.mem_filter.2 ⟨hid, hcovers⟩)
    · exact encodes_of_not_covers (by simpa using hcovers)
  · intro h id hid
    exact h id (List.mem_filter.1 hid).1

/-! ## The whole value -/

theorem encodeItems_eq_ok {f : ObjectId → Value} {items : List Value}
    (h : ∀ item ∈ items, coders.encode heap item = .ok (item.mapObjects f)) :
    coders.encodeItems heap items = .ok (Value.mapItems f items) := by
  induction items with
  | nil => rfl
  | cons item rest ih =>
    obtain ⟨hitem, hrest⟩ := List.forall_mem_cons.1 h
    rw [encodeItems, hitem, ih hrest]
    rfl

theorem encodeEntries_eq_ok {f : ObjectId → Value} {entries : Entries Value}
    (h : ∀ entry ∈ entries, coders.encode heap entry.2 = .ok (entry.2.mapObjects f)) :
    coders.encodeEntries heap entries = .ok (Value.mapEntries f entries) := by
  induction entries with
  | nil => rfl
  | cons entry rest ih =>
    obtain ⟨hentry, hrest⟩ := List.forall_mem_cons.1 h
    rw [encodeEntries, hentry, ih hrest]
    rfl

/-- If all objects are encoded, their outcomes come in their places. -/
theorem encode_eq_ok (h : ∀ id ∈ value.objects, coders.Encodes heap id) :
    coders.encode heap value = .ok (value.mapObjects (coders.replacement heap)) := by
  induction value using Value.partsInduction with
  | list items ih =>
    rw [Value.objects, Value.itemObjects_eq] at h
    have hitems := encodeItems_eq_ok fun item hitem => ih item hitem fun id hid =>
      h id (List.mem_flatMap.2 ⟨item, hitem, hid⟩)
    rw [encode, hitems]
    rfl
  | map entries ih =>
    rw [Value.objects, Value.entryObjects_eq] at h
    have hentries := encodeEntries_eq_ok fun entry hentry => ih entry hentry fun id hid =>
      h id (List.mem_flatMap.2 ⟨entry, hentry, hid⟩)
    rw [encode, hentries]
    rfl
  | object id =>
    obtain ⟨made, hmade⟩ := h id (by simp [Value.objects])
    rw [encode_object, hmade, Value.mapObjects, replacement_eq hmade]
  | _ => rfl

/-- Whether encoding a value fails as soon as the walk through its objects does. -/
def FailsFirst (coders : Coders) (heap : Heap) (value : Value) : Prop :=
  ∀ id error, WalkReaches (coders.Encodes heap) value.objects id →
    coders.encodeObject heap id = .error error → coders.encode heap value = .error error

theorem encodeItems_eq_error {items : List Value}
    (h : ∀ item ∈ items, coders.FailsFirst heap item)
    (hreach : WalkReaches (coders.Encodes heap) (Value.itemObjects items) id)
    (hid : coders.encodeObject heap id = .error error) :
    coders.encodeItems heap items = .error error := by
  induction items with
  | nil => exact absurd hreach WalkReaches.nil_iff
  | cons item rest ih =>
    obtain ⟨hitem, hrest⟩ := List.forall_mem_cons.1 h
    rw [Value.itemObjects, WalkReaches.append_iff] at hreach
    rcases hreach with hreach | ⟨hall, hreach⟩
    · rw [encodeItems, hitem id error hreach hid]
      rfl
    · rw [encodeItems, encode_eq_ok hall, ih hrest hreach]
      rfl

theorem encodeEntries_eq_error {entries : Entries Value}
    (h : ∀ entry ∈ entries, coders.FailsFirst heap entry.2)
    (hreach : WalkReaches (coders.Encodes heap) (Value.entryObjects entries) id)
    (hid : coders.encodeObject heap id = .error error) :
    coders.encodeEntries heap entries = .error error := by
  induction entries with
  | nil => exact absurd hreach WalkReaches.nil_iff
  | cons entry rest ih =>
    obtain ⟨hentry, hrest⟩ := List.forall_mem_cons.1 h
    rw [Value.entryObjects, WalkReaches.append_iff] at hreach
    rcases hreach with hreach | ⟨hall, hreach⟩
    · rw [encodeEntries, hentry id error hreach hid]
      rfl
    · rw [encodeEntries, encode_eq_ok hall, ih hrest hreach]
      rfl

/-- The first object that is not encoded ends the encoding with its error. -/
theorem encode_eq_error (value : Value) : coders.FailsFirst heap value := by
  induction value using Value.partsInduction with
  | list items ih =>
    intro id error hreach hid
    rw [encode, encodeItems_eq_error ih hreach hid]
    rfl
  | map entries ih =>
    intro id error hreach hid
    rw [encode, encodeEntries_eq_error ih hreach hid]
    rfl
  | object first =>
    intro id error hreach hid
    obtain rfl : id = first := by simpa [Value.objects] using hreach
    rw [encode_object, hid]
  | _ =>
    intro id error hreach _
    exact absurd hreach WalkReaches.nil_iff

/-- A value is encoded, or there is a first object that is not. -/
theorem encode_cases (coders : Coders) (heap : Heap) (value : Value) :
    ((∀ id ∈ coders.coded heap value, coders.Encodes heap id) ∧
      coders.encode heap value = .ok (value.mapObjects (coders.replacement heap))) ∨
    ∃ id error, WalkReaches (coders.Encodes heap) (coders.coded heap value) id ∧
      coders.encodeObject heap id = .error error ∧ coders.encode heap value = .error error := by
  rcases WalkReaches.all_or_first (coders.Encodes heap) value.objects with hall | hfirst
  · exact .inl ⟨forall_mem_coded_iff.2 hall, encode_eq_ok hall⟩
  · obtain ⟨id, hreach, hfails⟩ := hfirst
    refine .inr ?_
    cases hid : coders.encodeObject heap id with
    | ok made => exact absurd ⟨made, hid⟩ hfails
    | error error =>
      refine ⟨id, error, ?_, hid, encode_eq_error value id error hreach hid⟩
      refine (WalkReaches.filter_iff fun other => encodes_of_not_covers).2 ⟨hreach, ?_⟩
      by_contra hcovers
      exact hfails (encodes_of_not_covers (by simpa using hcovers))

/-! ## Encoding twice -/

/-- A value without coded objects is encoded as itself. -/
theorem encode_eq_self (h : coders.coded heap value = []) :
    coders.encode heap value = .ok value := by
  have huncovered : ∀ id ∈ value.objects, coders.covers heap (.object id) = false := by
    simpa [coded, List.filter_eq_nil_iff] using h
  have hsame : value.mapObjects (coders.replacement heap) = value := by
    apply Value.mapObjects_eq_self
    intro id hid
    exact replacement_eq (encodeObject_of_not_covers (huncovered id hid))
  rw [encode_eq_ok fun id hid => encodes_of_not_covers (huncovered id hid), hsame]

/-- What coders leave without coded objects stays without them inside a value. -/
theorem coded_mapObjects (hencodes : ∀ id ∈ coders.coded heap value, coders.Encodes heap id)
    (h : ∀ id ∈ coders.coded heap value, ∀ made, coders.encodeObject heap id = .ok made →
      coders.coded heap made = []) :
    coders.coded heap (value.mapObjects (coders.replacement heap)) = [] := by
  rw [coded, Value.objects_mapObjects, List.filter_flatMap, List.flatMap_eq_nil_iff]
  intro id hid
  by_cases hcovers : coders.covers heap (.object id) = true
  · have hcoded : id ∈ coders.coded heap value := List.mem_filter.2 ⟨hid, hcovers⟩
    obtain ⟨made, hmade⟩ := hencodes id hcoded
    rw [replacement_eq hmade]
    exact h id hcoded made hmade
  · have huncovered : coders.covers heap (.object id) = false := by simpa using hcovers
    rw [replacement_eq (encodeObject_of_not_covers huncovered)]
    simp [Value.objects, huncovered]

/-- **Encoding replaces exactly the coded objects and keeps the shape.**  It succeeds exactly
if the coders of all coded objects do, and then every one of these is replaced by what its
coder makes of it while everything else stays in its place; it fails with the error of the
first coded object whose coder fails; and where the coders leave no coded object behind,
encoding the result once more changes nothing. -/
theorem encode_replaces (coders : Coders) (heap : Heap) (value : Value) :
    (∀ result, coders.encode heap value = .ok result ↔
      (∀ id ∈ coders.coded heap value, coders.Encodes heap id) ∧
        result = value.mapObjects (coders.replacement heap)) ∧
    (∀ error, coders.encode heap value = .error error ↔
      ∃ id, WalkReaches (coders.Encodes heap) (coders.coded heap value) id ∧
        coders.encodeObject heap id = .error error) ∧
    (∀ result, coders.encode heap value = .ok result →
      (∀ id ∈ coders.coded heap value, ∀ made, coders.encodeObject heap id = .ok made →
        coders.coded heap made = []) →
      coders.encode heap result = .ok result) := by
  rcases encode_cases coders heap value with ⟨hall, hok⟩ | ⟨id, error, hreach, hid, herror⟩
  · refine ⟨fun result => ?_, fun error => ?_, fun result hresult hleft => ?_⟩
    · rw [hok, Except.ok.injEq, eq_comm]
      exact (and_iff_right hall).symm
    · rw [hok]
      constructor
      · intro h
        cases h
      · rintro ⟨id, hreach, hid⟩
        exact absurd (hall id hreach.mem) (not_encodes_of_error hid)
    · rw [hok, Except.ok.injEq] at hresult
      subst hresult
      exact encode_eq_self (coded_mapObjects hall hleft)
  · refine ⟨fun result => ?_, fun other => ?_, fun result hresult => ?_⟩
    · rw [herror]
      constructor
      · intro h
        cases h
      · rintro ⟨hall, -⟩
        exact absurd (hall id hreach.mem) (not_encodes_of_error hid)
    · rw [herror, Except.error.injEq]
      constructor
      · rintro rfl
        exact ⟨id, hreach, hid⟩
      · rintro ⟨first, hfirst, hother⟩
        -- there is only one first failure, so its error is the one that was found
        obtain rfl := hreach.first_unique (not_encodes_of_error hid) hfirst
          (not_encodes_of_error hother)
        rw [hid, Except.error.injEq] at hother
        exact hother
    · rw [herror] at hresult
      cases hresult

/-- The type of amounts of money. -/
def moneyKey : TypeKey := ⟨0, "shop::Money"⟩

/-- The type of customers. -/
def customerKey : TypeKey := ⟨1, "shop::Customer"⟩

/-- Two amounts and a customer. -/
def till : Heap :=
  ⟨fun key => .empty key.shortName,
    [⟨moneyKey, [("cents", .integer 150)]⟩, ⟨customerKey, []⟩,
      ⟨moneyKey, [("cents", .integer 20)]⟩]⟩

/-- Money is encoded as its cents. -/
def centsCoder : Coders := register [] moneyKey fun heap id => .ok (heap.slot id "cents")

/-- Customers are not to leave. -/
def discreetCoders : Coders :=
  centsCoder.register customerKey fun _ _ => .error (.mismatch "plain" "Customer")

/-- A receipt with an amount in a list, a customer and another amount. -/
def receipt : Value :=
  .map [("prices", .list [.object ⟨0⟩, .integer 3]), ("customer", .object ⟨1⟩),
    ("tip", .object ⟨2⟩)]

/-- The receipt with cents in the places of the amounts. -/
def receiptInCents : Value :=
  .map [("prices", .list [.integer 150, .integer 3]), ("customer", .object ⟨1⟩),
    ("tip", .integer 20)]

/-- The amounts of the receipt are replaced and the customer stays, also the second time; the
customer's own coder ends the encoding. -/
theorem encode_replaces_receipt :
    centsCoder.encode till receipt = .ok receiptInCents ∧
      (∀ id ∈ centsCoder.coded till receipt, ∀ made, centsCoder.encodeObject till id = .ok made →
        centsCoder.coded till made = []) ∧
      centsCoder.encode till receiptInCents = .ok receiptInCents ∧
      discreetCoders.encode till receipt = .error (.mismatch "plain" "Customer") := by
  obtain ⟨hok, -, htwice⟩ := encode_replaces centsCoder till receipt
  obtain ⟨-, herror, -⟩ := encode_replaces discreetCoders till receipt
  have hcoded : centsCoder.coded till receipt = [⟨0⟩, ⟨2⟩] := by decide
  have hfirst : centsCoder.encodeObject till ⟨0⟩ = .ok (.integer 150) := rfl
  have hsecond : centsCoder.encodeObject till ⟨2⟩ = .ok (.integer 20) := rfl
  have hencoded : centsCoder.encode till receipt = .ok receiptInCents := by
    refine (hok receiptInCents).2 ⟨?_, rfl⟩
    rw [hcoded]
    simp [Encodes, hfirst, hsecond]
  have hleft : ∀ id ∈ centsCoder.coded till receipt, ∀ made,
      centsCoder.encodeObject till id = .ok made → centsCoder.coded till made = [] := by
    intro id hid made hmade
    rw [hcoded] at hid
    simp only [List.mem_cons, List.not_mem_nil, or_false] at hid
    rcases hid with rfl | rfl
    · rw [hfirst] at hmade
      cases hmade
      rfl
    · rw [hsecond] at hmade
      cases hmade
      rfl
  refine ⟨hencoded, hleft, htwice _ hencoded hleft, (herror _).2 ⟨⟨1⟩, ?_, rfl⟩⟩
  have hcodedAll : discreetCoders.coded till receipt = [⟨0⟩, ⟨1⟩, ⟨2⟩] := by decide
  have hprice : discreetCoders.Encodes till ⟨0⟩ := ⟨.integer 150, rfl⟩
  rw [hcodedAll]
  simp [hprice]

end Coders

end DynamicSql

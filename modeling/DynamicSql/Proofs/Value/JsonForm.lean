import DynamicSql.Heap.ToJson
import DynamicSql.Proofs.Json.Canonical
import DynamicSql.Proofs.Value.Parts
import DynamicSql.Value.OfJson

/-!
# Values and their JSON forms

A value that holds no object has a JSON form of its own, whatever objects there are
(`jsonWith_of_isPlain`).  Where there are no decimals either, nothing is lost on the way: a
document whose numbers are 64-bit integers is the form of its value, and the form of a value
stands for an equal value (`json_round_trips`).
-/

namespace DynamicSql

namespace Value

mutual

/-- The JSON form of a value that holds no object. -/
def plainJson : Value → Json
  | null => .null
  | boolean b => .bool b
  | integer i => .number (.integer i.toInt)
  | decimal d => .string d.text
  | string s => .string s
  | list items => .array (plainItems items)
  | map entries => .object (Entries.sorted (plainMembers entries))
  | object _ => .null

/-- The JSON forms of the items. -/
def plainItems : List Value → List Json
  | [] => []
  | item :: rest => plainJson item :: plainItems rest

/-- The JSON forms of the entries. -/
def plainMembers : List (String × Value) → List (String × Json)
  | [] => []
  | (name, value) :: rest => (name, plainJson value) :: plainMembers rest

end

theorem plainItems_eq (items : List Value) : plainItems items = items.map plainJson := by
  induction items with
  | nil => rfl
  | cons item rest ih => rw [plainItems, ih, List.map_cons]

theorem plainMembers_eq (entries : Entries Value) :
    plainMembers entries = entries.map fun entry => (entry.1, entry.2.plainJson) := by
  induction entries with
  | nil => rfl
  | cons entry rest ih => rw [plainMembers, ih, List.map_cons]

theorem keys_plainMembers (entries : Entries Value) :
    Entries.keys (plainMembers entries) = entries.keys := by
  rw [plainMembers_eq, Entries.keys, List.map_map]
  rfl

theorem isSorted_plainJson (value : Value) : value.plainJson.isSorted = true := by
  induction value using partsInduction with
  | list items ih =>
    rw [plainJson, Json.isSorted_array, plainItems_eq]
    exact List.forall_mem_map.2 ih
  | map entries ih =>
    rw [plainJson, Json.isSorted_object, plainMembers_eq]
    refine ⟨Entries.pairwise_keys_sorted _, fun member hmember => ?_⟩
    obtain ⟨entry, hentry, rfl⟩ := Entries.mem_sorted_map hmember
    exact ih entry hentry
  | _ => rfl

theorem ofItems_eq (items : List Json) : ofItems items = items.map ofCanonical := by
  induction items with
  | nil => rfl
  | cons item rest ih => rw [ofItems, ih, List.map_cons]

theorem ofMembers_eq (members : List (String × Json)) :
    ofMembers members = members.map fun member => (member.1, ofCanonical member.2) := by
  induction members with
  | nil => rfl
  | cons member rest ih => rw [ofMembers, ih, List.map_cons]

end Value

/-! ## The form that is found -/

namespace Heap

variable {objectJson : ObjectId → Option (Except AccessError Json)}

theorem jsonItems_eq {items : List Value}
    (h : ∀ item ∈ items, jsonWith objectJson item = some (.ok item.plainJson)) :
    jsonItems objectJson items = some (.ok (Value.plainItems items)) := by
  induction items with
  | nil => rfl
  | cons item rest ih =>
    obtain ⟨hitem, hrest⟩ := List.forall_mem_cons.1 h
    rw [jsonItems, hitem, ih hrest]
    rfl

theorem jsonEntries_eq {entries : Entries Value}
    (h : ∀ entry ∈ entries, jsonWith objectJson entry.2 = some (.ok entry.2.plainJson)) :
    jsonEntries objectJson entries = some (.ok (Value.plainMembers entries)) := by
  induction entries with
  | nil => rfl
  | cons entry rest ih =>
    obtain ⟨hentry, hrest⟩ := List.forall_mem_cons.1 h
    rw [jsonEntries, hentry, ih hrest]
    rfl

/-- A value that holds no object has a JSON form without looking at any object. -/
theorem jsonWith_of_isPlain {value : Value} (h : value.isPlain = true) :
    jsonWith objectJson value = some (.ok value.plainJson) := by
  induction value using Value.partsInduction with
  | list items ih =>
    have hitems := jsonItems_eq fun item hitem => ih item hitem (Value.arePlain_iff.1 h item hitem)
    rw [jsonWith, hitems]
    rfl
  | map entries ih =>
    have hentries := jsonEntries_eq fun entry hentry =>
      ih entry hentry (Value.entriesPlain_iff.1 h entry hentry)
    rw [jsonWith, hentries]
    rfl
  | object id => cases h
  | _ => rfl

end Heap

namespace Value

/-! ## From documents to values and back -/

/-- Documents have values without objects. -/
theorem isPlain_ofCanonical (json : Json) : (ofCanonical json).isPlain = true := by
  induction json using Json.partsInduction with
  | number n =>
    cases n with
    | integer i =>
      unfold ofCanonical ofNumber
      simp only
      split
      · rfl
      · cases decimalOfNumber (.integer i) <;> rfl
    | float x =>
      unfold ofCanonical ofNumber
      simp only
      cases decimalOfNumber (.float x) <;> rfl
  | array items ih =>
    rw [ofCanonical, isPlain, arePlain_iff, ofItems_eq]
    exact List.forall_mem_map.2 ih
  | object members ih =>
    rw [ofCanonical, isPlain, entriesPlain_iff, ofMembers_eq]
    exact List.forall_mem_map.2 ih
  | _ => rfl

/-- A document in order whose numbers are 64-bit integers is the form of its value. -/
theorem plainJson_ofCanonical {json : Json} (hsorted : json.isSorted = true)
    (hnumbers : json.everyNumber JsonNumber.isInt64 = true) :
    (ofCanonical json).plainJson = json := by
  induction json using Json.partsInduction with
  | number n =>
    cases n with
    | integer i =>
      obtain ⟨n, hn⟩ := Option.isSome_iff_exists.1 (show (int64? i).isSome = true from hnumbers)
      rw [ofCanonical, ofNumber, hn]
      show Json.number (.integer n.toInt) = _
      rw [toInt_of_int64? hn]
    | float x => cases hnumbers
  | array items ih =>
    rw [Json.isSorted_array] at hsorted
    rw [Json.everyNumber_array] at hnumbers
    have hitems : items.map (plainJson ∘ ofCanonical) = items := by
      refine (List.map_congr_left fun item hitem => ?_).trans (List.map_id' items)
      exact ih item hitem (hsorted item hitem) (hnumbers item hitem)
    rw [ofCanonical, plainJson, plainItems_eq, ofItems_eq, List.map_map, hitems]
  | object members ih =>
    rw [Json.isSorted_object] at hsorted
    rw [Json.everyNumber_object] at hnumbers
    have hmembers : plainMembers (ofMembers members) = members := by
      rw [plainMembers_eq, ofMembers_eq, List.map_map]
      refine (List.map_congr_left fun member hmember => ?_).trans (List.map_id' members)
      show (member.1, (ofCanonical member.2).plainJson) = member
      rw [ih member hmember (hsorted.2 member hmember) (hnumbers member hmember)]
    rw [ofCanonical, plainJson, hmembers, Entries.sorted_eq_self hsorted.1]
  | _ => rfl

/-! ## From values to documents and back -/

/-- The form of a value without decimals and objects stands for an equal value. -/
theorem same_ofCanonical_plainJson {value : Value} (hplain : value.isPlain = true)
    (hdecimals : value.isDecimalFree = true) (hkeys : value.hasDistinctKeys = true) :
    (ofCanonical value.plainJson).same value = true := by
  induction value using partsInduction with
  | null => rfl
  | boolean b => simp [plainJson, ofCanonical, same]
  | integer i => simp [plainJson, ofCanonical, ofNumber, int64?_toInt, same]
  | decimal d => cases hdecimals
  | string s => simp [plainJson, ofCanonical, same]
  | list items ih =>
    rw [plainJson, ofCanonical, same, ofItems_eq, plainItems_eq, List.map_map]
    refine sameItems_map fun item hitem => ih item hitem ?_ ?_ ?_
    · exact arePlain_iff.1 hplain item hitem
    · exact areDecimalFree_iff.1 hdecimals item hitem
    · exact itemsDistinct_iff.1 hkeys item hitem
  | map entries ih =>
    obtain ⟨hnodup, hparts⟩ := entriesDistinct_iff.1 hkeys
    have hperm : (Entries.sorted (plainMembers entries)).Perm (plainMembers entries) :=
      Entries.sorted_perm (by rwa [keys_plainMembers])
    have hlength : (Entries.sorted (plainMembers entries)).length = entries.length := by
      rw [hperm.length_eq, plainMembers_eq, List.length_map]
    rw [plainJson, ofCanonical, same, ofMembers_eq, Bool.and_eq_true, sameEntries_iff,
      List.forall_mem_map, List.length_map, hlength]
    refine ⟨beq_self_eq_true _, fun member hmember => ?_⟩
    rw [plainMembers_eq] at hmember
    obtain ⟨entry, hentry, rfl⟩ := Entries.mem_sorted_map hmember
    refine ⟨entry.2, Entries.get?_of_mem hnodup hentry, ih entry hentry ?_ ?_ ?_⟩
    · exact entriesPlain_iff.1 hplain entry hentry
    · exact entriesDecimalFree_iff.1 hdecimals entry hentry
    · exact hparts entry hentry
  | object id => cases hplain

/-- **Values without decimals and objects survive JSON in both directions.**  A document
whose numbers are 64-bit integers comes back as its reader sees it, which is the document
itself where its members are in order; and a value comes back as an equal value. -/
theorem json_round_trips (heap : Heap) :
    (∀ json : Json, json.everyNumber JsonNumber.isInt64 = true →
      heap.toJson (ofJson json) = some (.ok json.canonical) ∧
        (json.isSorted = true → heap.toJson (ofJson json) = some (.ok json))) ∧
    (∀ value : Value, value.isPlain = true → value.isDecimalFree = true →
      value.hasDistinctKeys = true →
        ∃ json, heap.toJson value = some (.ok json) ∧ (ofJson json).same value = true) := by
  constructor
  · intro json hnumbers
    have hback : heap.toJson (ofJson json) = some (.ok json.canonical) := by
      have hform := plainJson_ofCanonical (Json.isSorted_canonical json)
        (Json.everyNumber_canonical hnumbers)
      rw [Heap.toJson, Heap.toJsonTo, ofJson,
        Heap.jsonWith_of_isPlain (isPlain_ofCanonical json.canonical), hform]
    refine ⟨hback, fun hsorted => ?_⟩
    rw [hback, Json.canonical_eq_self hsorted]
  · intro value hplain hdecimals hkeys
    refine ⟨value.plainJson, Heap.jsonWith_of_isPlain hplain, ?_⟩
    rw [ofJson, Json.canonical_eq_self (isSorted_plainJson value)]
    exact same_ofCanonical_plainJson hplain hdecimals hkeys

/-- A document whose members are out of order and partly written twice. -/
def shipment : Json :=
  .object [("weights", .array [.number (.integer (-9223372036854775808)), .null,
      .number (.integer 9223372036854775807)]), ("to", .object [("é", .bool true), ("Z", .null)]),
    ("note", .string "1"), ("to", .object [("é", .string "\n"), ("Z", .array [])])]

/-- The document of `shipment` in order. -/
def sortedShipment : Json :=
  .object [("note", .string "1"), ("to", .object [("Z", .array []), ("é", .string "\n")]),
    ("weights", .array [.number (.integer (-9223372036854775808)), .null,
      .number (.integer 9223372036854775807)])]

/-- A mapping whose keys are out of order, with a list and another mapping inside. -/
def basket : Value :=
  .map [("pears", .integer 3), ("apples", .list [.null, .boolean false, .map []]),
    ("at", .map [("shop", .string "\"x\""), ("day", .integer (-1))])]

/-- A document out of order, the same one in order, and a mapping come back. -/
theorem json_round_trips_shipment :
    shipment.everyNumber JsonNumber.isInt64 = true ∧
      Heap.empty.toJson (ofJson shipment) = some (.ok sortedShipment) ∧
      sortedShipment.isSorted = true ∧
      Heap.empty.toJson (ofJson sortedShipment) = some (.ok sortedShipment) ∧
      ∃ json, Heap.empty.toJson basket = some (.ok json) ∧ (ofJson json).same basket = true := by
  have hnumbers : shipment.everyNumber JsonNumber.isInt64 = true := by decide
  have hsorted : sortedShipment.isSorted = true := by decide
  obtain ⟨hdocuments, hvalues⟩ := json_round_trips .empty
  exact ⟨hnumbers, (hdocuments shipment hnumbers).1, hsorted,
    (hdocuments sortedShipment (by decide)).2 hsorted,
    hvalues basket (by decide) (by decide) (by decide)⟩

end Value

end DynamicSql

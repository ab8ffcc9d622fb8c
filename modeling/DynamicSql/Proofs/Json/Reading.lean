import DynamicSql.Proofs.Json.Canonical
import DynamicSql.Proofs.Json.Scalars

/-!
# Reading documents back

The compact text of a document is read back as the document (`parse_compact`), where its
numbers are integers and it nests no deeper than a reader follows.  Any document reads back
from its own text up to whatever may stand behind it (`ReadsBack`), so that items and members
are read one after the other.
-/

namespace DynamicSql.Json

variable {reading : Reading} {fuel depth : Nat}

/-! ## One step of the reader -/

theorem skipSpace_cons {c : Char} {cs : List Char} (h : isSpace c = false) :
    skipSpace (c :: cs) = c :: cs := by
  rw [skipSpace, List.dropWhile_cons, h]
  rfl

/-- Only a closing bracket ends an array before its first item. -/
theorem readValue_array {c : Char} {cs rest : List Char} {items : List Json}
    (hspace : isSpace c = false) (hclose : c ≠ ']')
    (h : readItems reading fuel depth (c :: cs) = some (items, rest)) :
    readValue reading (fuel + 1) (depth + 1) ('[' :: c :: cs) = some (.array items, rest) := by
  rw [readValue, skipSpace_cons rfl]
  simp only
  rw [skipSpace_cons hspace]
  split
  · rename_i heq
    exact absurd (List.cons.inj heq).1 hclose
  · rw [h]
    rfl

theorem readItems_last {cs rest : List Char} {item : Json}
    (h : readValue reading fuel depth cs = some (item, ']' :: rest)) :
    readItems reading (fuel + 1) depth cs = some ([item], rest) := by
  rw [readItems, h]
  rfl

theorem readItems_next {cs rest after : List Char} {item : Json} {items : List Json}
    (h : readValue reading fuel depth cs = some (item, ',' :: rest))
    (htail : readItems reading fuel depth rest = some (items, after)) :
    readItems reading (fuel + 1) depth cs = some (item :: items, after) := by
  rw [readItems, h]
  show (readItems reading fuel depth rest).bind _ = _
  rw [htail]
  rfl

/-- Members start with the quote of a name. -/
theorem readValue_object {cs rest : List Char} {members : List (String × Json)}
    (h : readMembers reading fuel depth ('"' :: cs) = some (members, rest)) :
    readValue reading (fuel + 1) (depth + 1) ('\x7b' :: '"' :: cs) =
      some (.object members, rest) := by
  rw [readValue, skipSpace_cons rfl]
  show (readMembers reading fuel depth ('"' :: cs)).bind _ = _
  rw [h]
  rfl

section Members

variable {cs name rest after : List Char} {value : Json}
  (hname : readString reading (cs.length + 1) cs = some (name, ':' :: rest))
include hname

theorem readMembers_last
    (hvalue : readValue reading fuel depth rest = some (value, '\x7d' :: after)) :
    readMembers reading (fuel + 1) depth ('"' :: cs) =
      some ([(String.ofList name, value)], after) := by
  rw [readMembers, skipSpace_cons rfl]
  show (readString reading (cs.length + 1) cs).bind _ = _
  rw [hname]
  show (readValue reading fuel depth rest).bind _ = _
  rw [hvalue]
  rfl

theorem readMembers_next {members : List (String × Json)} {last : List Char}
    (hvalue : readValue reading fuel depth rest = some (value, ',' :: after))
    (htail : readMembers reading fuel depth after = some (members, last)) :
    readMembers reading (fuel + 1) depth ('"' :: cs) =
      some ((String.ofList name, value) :: members, last) := by
  rw [readMembers, skipSpace_cons rfl]
  show (readString reading (cs.length + 1) cs).bind _ = _
  rw [hname]
  show (readValue reading fuel depth rest).bind _ = _
  rw [hvalue]
  show (readMembers reading fuel depth after).bind _ = _
  rw [htail]
  rfl

end Members

/-! ## What values start with -/

/-- A value starts neither with white space nor with a closing bracket. -/
theorem exists_cons_compactChars {json : Json}
    (h : json.everyNumber JsonNumber.isInteger = true) :
    ∃ c tail, json.compactChars = c :: tail ∧ isSpace c = false ∧ c ≠ ']' := by
  cases json with
  | number n =>
    cases n with
    | integer i =>
      have hstarts : numberStarts.all (fun c => !isSpace c && c != ']') = true := rfl
      obtain ⟨c, tail, htext, hc⟩ := exists_cons_intText i
      exact ⟨c, tail, htext, by simpa using List.all_eq_true.1 hstarts c hc⟩
    | float x => cases h
  | bool b => cases b <;> exact ⟨_, _, rfl, by decide, by decide⟩
  | _ => exact ⟨_, _, rfl, by decide, by decide⟩

/-- What starts as a number is read as one. -/
theorem readValue_number {c : Char} (h : c ∈ numberStarts) (cs : List Char) :
    readValue reading (fuel + 1) depth (c :: cs) = readAnyNumber reading (c :: cs) := by
  simp only [numberStarts, List.mem_cons, List.not_mem_nil, or_false] at h
  rcases h with rfl | rfl | rfl | rfl | rfl | rfl | rfl | rfl | rfl | rfl | rfl <;> rfl

/-! ## Values -/

/-- Whether a document is read back from its compact text, whatever stands behind it.  Every
character pays for two steps of the reader, as an item of an array takes one for itself and
one for its value. -/
def ReadsBack (json : Json) : Prop :=
  ∀ (fuel depth : Nat) (rest : List Char), 2 * json.compactChars.length < fuel →
    json.depth ≤ depth → EndsNumber rest →
    readValue .full fuel depth (json.compactChars ++ rest) = some (json, rest)

theorem readsBack_null : ReadsBack .null := by
  intro fuel depth rest hfuel _ _
  obtain ⟨fuel, rfl⟩ : ∃ n, fuel = n + 1 := ⟨fuel - 1, by omega⟩
  rfl

theorem readsBack_bool (b : Bool) : ReadsBack (.bool b) := by
  intro fuel depth rest hfuel _ _
  obtain ⟨fuel, rfl⟩ : ∃ n, fuel = n + 1 := ⟨fuel - 1, by omega⟩
  cases b <;> rfl

theorem readsBack_integer {i : Int} (h : JsonNumber.isInteger (.integer i) = true) :
    ReadsBack (.number (.integer i)) := by
  intro fuel depth rest hfuel _ hrest
  obtain ⟨fuel, rfl⟩ : ∃ n, fuel = n + 1 := ⟨fuel - 1, by omega⟩
  obtain ⟨c, tail, htext, hc⟩ := exists_cons_intText i
  have hread := readNumber_intText h hrest
  rw [compactChars, JsonNumber.text]
  rw [htext, List.cons_append] at hread ⊢
  rw [readValue_number hc, readAnyNumber, hread]
  rfl

/-- The quoted text of a string starts with its quote. -/
theorem stringText_append (s : String) (rest : List Char) :
    stringText s ++ rest = '"' :: (s.toList.flatMap escapeChar ++ '"' :: rest) := by
  simp [stringText]

theorem readString_stringText (s : String) (rest : List Char) :
    readString reading ((s.toList.flatMap escapeChar ++ '"' :: rest).length + 1)
      (s.toList.flatMap escapeChar ++ '"' :: rest) = some (s.toList, rest) :=
  readString_escaped s.toList rest (by rw [List.length_append]; omega)

theorem readsBack_string (s : String) : ReadsBack (.string s) := by
  intro fuel depth rest hfuel _ _
  obtain ⟨fuel, rfl⟩ : ∃ n, fuel = n + 1 := ⟨fuel - 1, by omega⟩
  rw [compactChars, stringText_append, readValue, skipSpace_cons rfl]
  show (readString .full _ _).bind _ = _
  rw [readString_stringText]
  show some (Json.string (String.ofList s.toList), rest) = _
  rw [String.ofList_toList]

/-- Items that are read back one by one are read back up to the closing bracket. -/
theorem readItems_compactItems {item : Json} {items : List Json}
    (hitems : ∀ part ∈ item :: items, ReadsBack part) {rest : List Char}
    (hfuel : 2 * (compactItems (item :: items)).length + 1 < fuel)
    (hdepth : depthItems (item :: items) ≤ depth) :
    readItems .full fuel depth (compactItems (item :: items) ++ ']' :: rest) =
      some (item :: items, rest) := by
  induction items generalizing item fuel with
  | nil =>
    obtain ⟨fuel, rfl⟩ : ∃ n, fuel = n + 1 := ⟨fuel - 1, by omega⟩
    rw [compactItems] at hfuel ⊢
    rw [depthItems, Nat.max_le] at hdepth
    exact readItems_last (hitems item List.mem_cons_self fuel depth _ (by omega) hdepth.1
      (.cons (by decide)))
  | cons next items ih =>
    obtain ⟨fuel, rfl⟩ : ∃ n, fuel = n + 1 := ⟨fuel - 1, by omega⟩
    rw [compactItems, List.length_append, List.length_cons] at hfuel
    rw [depthItems, Nat.max_le] at hdepth
    rw [compactItems, List.append_assoc, List.cons_append]
    refine readItems_next (hitems item List.mem_cons_self fuel depth _ (by omega) hdepth.1
      (.cons (by decide))) ?_
    exact ih (fun part hpart => hitems part (List.mem_cons_of_mem _ hpart)) (by omega) hdepth.2

theorem readsBack_array {items : List Json}
    (hnumbers : ∀ item ∈ items, item.everyNumber JsonNumber.isInteger = true)
    (hitems : ∀ item ∈ items, ReadsBack item) : ReadsBack (.array items) := by
  intro fuel depth rest hfuel hdepth _
  rw [Json.depth] at hdepth
  obtain ⟨depth, rfl⟩ : ∃ n, depth = n + 1 := ⟨depth - 1, by omega⟩
  obtain ⟨fuel, rfl⟩ : ∃ n, fuel = n + 1 := ⟨fuel - 1, by omega⟩
  cases items with
  | nil => rfl
  | cons item items =>
    rw [compactChars, List.cons_append, List.length_cons, List.length_append] at hfuel
    have hread : readItems .full fuel depth (compactItems (item :: items) ++ ']' :: rest) =
        some (item :: items, rest) := readItems_compactItems hitems (by omega) (by omega)
    obtain ⟨c, tail, htext, hspace, hclose⟩ :=
      exists_cons_compactChars (hnumbers item List.mem_cons_self)
    have hstart : ∃ tail, compactItems (item :: items) ++ ']' :: rest = c :: tail := by
      cases items with
      | nil => exact ⟨_, by rw [compactItems, htext]; rfl⟩
      | cons next items => exact ⟨_, by rw [compactItems, htext]; rfl⟩
    obtain ⟨tail, hstart⟩ := hstart
    rw [compactChars, List.cons_append, List.cons_append, List.append_assoc, List.singleton_append]
    rw [hstart] at hread ⊢
    exact readValue_array hspace hclose hread

/-- Members whose values are read back one by one are read back up to the closing brace. -/
theorem readMembers_compactMembers {member : String × Json} {members : List (String × Json)}
    (hmembers : ∀ part ∈ member :: members, ReadsBack part.2) {rest : List Char}
    (hfuel : 2 * (compactMembers (member :: members)).length + 1 < fuel)
    (hdepth : depthMembers (member :: members) ≤ depth) :
    readMembers .full fuel depth (compactMembers (member :: members) ++ '\x7d' :: rest) =
      some (member :: members, rest) := by
  induction members generalizing member fuel with
  | nil =>
    obtain ⟨name, value⟩ := member
    obtain ⟨fuel, rfl⟩ : ∃ n, fuel = n + 1 := ⟨fuel - 1, by omega⟩
    rw [compactMembers, List.length_append, List.length_cons] at hfuel
    rw [depthMembers, Nat.max_le] at hdepth
    rw [compactMembers, List.append_assoc, stringText_append, List.cons_append]
    have hback : ReadsBack value := hmembers (name, value) List.mem_cons_self
    have hvalue := hback fuel depth ('\x7d' :: rest) (by omega) hdepth.1 (.cons (by decide))
    rw [readMembers_last (readString_stringText name _) hvalue, String.ofList_toList]
  | cons next members ih =>
    obtain ⟨name, value⟩ := member
    obtain ⟨fuel, rfl⟩ : ∃ n, fuel = n + 1 := ⟨fuel - 1, by omega⟩
    rw [compactMembers, List.length_append, List.length_append, List.length_cons,
      List.length_cons] at hfuel
    rw [depthMembers, Nat.max_le] at hdepth
    rw [compactMembers, List.append_assoc, List.append_assoc, stringText_append, List.cons_append,
      List.cons_append]
    have hback : ReadsBack value := hmembers (name, value) List.mem_cons_self
    have hvalue := hback fuel depth
      (',' :: (compactMembers (next :: members) ++ '\x7d' :: rest)) (by omega) hdepth.1
      (.cons (by decide))
    have htail : readMembers .full fuel depth
        (compactMembers (next :: members) ++ '\x7d' :: rest) = some (next :: members, rest) :=
      ih (fun part hpart => hmembers part (List.mem_cons_of_mem _ hpart)) (by omega) hdepth.2
    rw [readMembers_next (readString_stringText name _) hvalue htail, String.ofList_toList]

theorem readsBack_object {members : List (String × Json)}
    (hmembers : ∀ member ∈ members, ReadsBack member.2) : ReadsBack (.object members) := by
  intro fuel depth rest hfuel hdepth _
  rw [Json.depth] at hdepth
  obtain ⟨depth, rfl⟩ : ∃ n, depth = n + 1 := ⟨depth - 1, by omega⟩
  obtain ⟨fuel, rfl⟩ : ∃ n, fuel = n + 1 := ⟨fuel - 1, by omega⟩
  cases members with
  | nil => rfl
  | cons member members =>
    rw [compactChars, List.cons_append, List.length_cons, List.length_append] at hfuel
    have hread : readMembers .full fuel depth
        (compactMembers (member :: members) ++ '\x7d' :: rest) = some (member :: members, rest) :=
      readMembers_compactMembers hmembers (by omega) (by omega)
    have hstart : ∃ tail,
        compactMembers (member :: members) ++ '\x7d' :: rest = '"' :: tail := by
      cases members with
      | nil => exact ⟨_, by rw [compactMembers, List.append_assoc, stringText_append]⟩
      | cons next members =>
        exact ⟨_, by rw [compactMembers, List.append_assoc, List.append_assoc, stringText_append]⟩
    obtain ⟨tail, hstart⟩ := hstart
    rw [compactChars, List.cons_append, List.cons_append, List.append_assoc, List.singleton_append]
    rw [hstart] at hread ⊢
    exact readValue_object hread

/-! ## Documents -/

/-- Every document whose numbers are integers is read back from its text. -/
theorem readsBack {json : Json} (h : json.everyNumber JsonNumber.isInteger = true) :
    ReadsBack json := by
  induction json using partsInduction with
  | null => exact readsBack_null
  | bool b => exact readsBack_bool b
  | number n =>
    cases n with
    | integer i => exact readsBack_integer h
    | float x => cases h
  | string s => exact readsBack_string s
  | array items ih =>
    rw [everyNumber_array] at h
    exact readsBack_array h fun item hitem => ih item hitem (h item hitem)
  | object members ih =>
    rw [everyNumber_object] at h
    exact readsBack_object fun member hmember => ih member hmember (h member hmember)

/-- A document that a reader can follow is read back from its compact text. -/
theorem parse_compact {json : Json} (hnumbers : json.everyNumber JsonNumber.isInteger = true)
    (hdepth : json.depth ≤ maxDepth) : parse json.compact = some json := by
  have hread := readsBack hnumbers (2 * json.compactChars.length + 2) maxDepth [] (by omega) hdepth
    (fun c hc => by cases hc)
  rw [List.append_nil] at hread
  rw [parse, compact, String.toList_ofList, parseChars, hread]
  rfl

end DynamicSql.Json

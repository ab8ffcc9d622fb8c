import DynamicSql.Json.Parser
import DynamicSql.Json.Places
import DynamicSql.Proofs.Binary64.Rounding
import DynamicSql.Proofs.Json.Reading

/-!
# The numbers of a document

Whatever the digits of a number are, what is read from them is an integer of the range of
documents or a floating-point number (`wellFormed_of_readNumber`), since the digits that are
taken fit 64 bits and every step on the way to a power of ten rounds.  So every number of a
document that is read is well formed, at any depth (`everyNumber_of_parse`).
-/

namespace DynamicSql.Json

open Text (isDigit digitValue)

/-! ## Digits -/

theorem digits_takeWhole {digits : Nat} (h : digits < twoPow 64) (cs : List Char) :
    (takeWhole digits cs).digits < twoPow 64 := by
  induction cs generalizing digits with
  | nil => exact h
  | cons c rest ih =>
    unfold takeWhole
    split
    · rename_i hroom
      exact ih hroom
    · exact h

/-! ## Floating-point numbers -/

theorem wellFormed_of_scaleByTen {fuel : Nat} {x y : Binary64} {exponent : Int}
    (hx : x.WellFormed) (h : scaleByTen fuel x exponent = some y) : y.WellFormed := by
  have hpower : ∀ {n : Nat} {power : Binary64}, powerOfTen n = some power → 0 < power.mantissa :=
    fun hpower => Nat.lt_of_lt_of_le (twoPow_pos 52)
      (Binary64.le_mantissa_of_nearest Nat.one_pos (tenPow_pos _) hpower)
  induction fuel generalizing x exponent with
  | zero => cases h
  | succ fuel ih =>
    unfold scaleByTen at h
    split at h
    · -- one multiplication or division
      obtain ⟨power, hten, h⟩ := Option.bind_eq_some_iff.1 h
      split at h
      · exact Binary64.wellFormed_of_mul h
      · exact Binary64.wellFormed_of_div (hpower hten) h
    · split at h
      · cases h
        exact hx
      · split at h
        · cases h
        · obtain ⟨power, hten, h⟩ := Option.bind_eq_some_iff.1 h
          obtain ⟨quotient, hquotient, h⟩ := Option.bind_eq_some_iff.1 h
          exact ih (Binary64.wellFormed_of_div (hpower hten) hquotient) h

theorem wellFormed_of_floatOf {negative : Bool} {s : Significand} {x : Binary64}
    (h : floatOf negative s = some x) : x.WellFormed := by
  obtain ⟨digits, hdigits, h⟩ := Option.bind_eq_some_iff.1 h
  obtain ⟨y, hy, h⟩ := Option.bind_eq_some_iff.1 h
  have hwell : y.WellFormed :=
    wellFormed_of_scaleByTen (Binary64.wellFormed_of_nearest Nat.one_pos hdigits) hy
  cases h
  split
  · exact Binary64.wellFormed_neg hwell
  · exact hwell

theorem wellFormed_of_withExponent {negative minus : Bool} {s : Significand} {digits : List Char}
    {x : Binary64} (h : withExponent negative s minus digits = some x) : x.WellFormed := by
  unfold withExponent at h
  simp only at h
  split at h
  · exact wellFormed_of_floatOf h
  · split at h
    · cases h
    · cases h
      exact Binary64.wellFormed_zero negative

/-! ## Numbers -/

variable {n : JsonNumber} {cs rest : List Char}

theorem wellFormed_of_readExponent {negative : Bool} {s : Significand}
    (h : readExponent negative s cs = some (n, rest)) : n.WellFormed := by
  unfold readExponent at h
  split at h
  · split at h
    · simp only at h
      split at h
      · cases h
      · obtain ⟨x, hx, h⟩ := Option.map_eq_some_iff.1 h
        cases h
        exact wellFormed_of_withExponent hx
    · obtain ⟨x, hx, h⟩ := Option.map_eq_some_iff.1 h
      cases h
      exact wellFormed_of_floatOf hx
  · obtain ⟨x, hx, h⟩ := Option.map_eq_some_iff.1 h
    cases h
    exact wellFormed_of_floatOf hx

theorem wellFormed_of_integerOf? {negative : Bool} {s : Significand} {i : Int}
    (hs : s.digits < twoPow 64) (h : integerOf? negative s = some i) :
    (JsonNumber.integer i).WellFormed := by
  have hlimits : twoPow 64 = 18446744073709551616 ∧ twoPow 63 = 9223372036854775808 := ⟨rfl, rfl⟩
  show int64Least ≤ i ∧ i < twoPow 64
  unfold integerOf? at h
  unfold int64Least
  split at h
  · cases h
  · split at h
    · cases h
      omega
    · split at h
      · cases h
        omega
      · cases h

theorem wellFormed_of_readUnsigned {negative : Bool}
    (h : readUnsigned negative cs = some (n, rest)) : n.WellFormed := by
  unfold readUnsigned at h
  simp only at h
  split at h
  · cases h
  · split at h
    · split at h
      · cases h
      · exact wellFormed_of_readExponent h
    · split at h
      · exact wellFormed_of_readExponent h
      · split at h
        · rename_i i hi
          cases h
          exact wellFormed_of_integerOf? (digits_takeWhole (twoPow_pos 64) _) hi
        · obtain ⟨x, hx, h⟩ := Option.map_eq_some_iff.1 h
          cases h
          exact wellFormed_of_floatOf hx

/-- What is read as a number is an integer of the range of documents or a floating-point
number. -/
theorem wellFormed_of_readNumber (h : readNumber cs = some (n, rest)) : n.WellFormed := by
  unfold readNumber at h
  split at h <;> exact wellFormed_of_readUnsigned h

/-! ## Documents -/

section

variable {test : JsonNumber → Bool}

/-- Every number that is read with the given fuel passes a test, at any depth. -/
structure NumbersPass (test : JsonNumber → Bool) (fuel : Nat) : Prop where
  value : ∀ {depth cs json rest}, readValue .full fuel depth cs = some (json, rest) →
    json.everyNumber test = true
  items : ∀ {depth cs items rest}, readItems .full fuel depth cs = some (items, rest) →
    ∀ item ∈ items, item.everyNumber test = true
  members : ∀ {depth cs members rest}, readMembers .full fuel depth cs = some (members, rest) →
    ∀ member ∈ members, member.2.everyNumber test = true

namespace NumbersPass

variable {fuel depth : Nat} {cs rest : List Char}

theorem value_succ (ih : NumbersPass test fuel)
    (htest : ∀ cs n rest, readNumber cs = some (n, rest) → test n = true) {json : Json}
    (h : readValue .full (fuel + 1) depth cs = some (json, rest)) :
    json.everyNumber test = true := by
  unfold readValue at h
  split at h
  · cases h
    rfl
  · cases h
    rfl
  · cases h
    rfl
  · obtain ⟨⟨s, after⟩, -, h⟩ := Option.bind_eq_some_iff.1 h
    cases h
    rfl
  · split at h
    · cases h
    · split at h
      · cases h
        rfl
      · obtain ⟨⟨items, after⟩, hread, h⟩ := Option.bind_eq_some_iff.1 h
        cases h
        exact everyNumber_array.2 (ih.items hread)
  · split at h
    · cases h
    · split at h
      · cases h
        rfl
      · obtain ⟨⟨members, after⟩, hread, h⟩ := Option.bind_eq_some_iff.1 h
        cases h
        exact everyNumber_object.2 (ih.members hread)
  · obtain ⟨⟨n, after⟩, hread, h⟩ := Option.map_eq_some_iff.1 h
    cases h
    exact htest _ _ _ hread

theorem items_succ (ih : NumbersPass test fuel) {items : List Json}
    (h : readItems .full (fuel + 1) depth cs = some (items, rest)) :
    ∀ item ∈ items, item.everyNumber test = true := by
  unfold readItems at h
  obtain ⟨⟨item, after⟩, hitem, h⟩ := Option.bind_eq_some_iff.1 h
  simp only at h
  split at h
  · cases h
    exact List.forall_mem_singleton.2 (ih.value hitem)
  · obtain ⟨⟨tail, last⟩, htail, h⟩ := Option.bind_eq_some_iff.1 h
    cases h
    exact List.forall_mem_cons.2 ⟨ih.value hitem, ih.items htail⟩
  · cases h

theorem members_succ (ih : NumbersPass test fuel) {members : List (String × Json)}
    (h : readMembers .full (fuel + 1) depth cs = some (members, rest)) :
    ∀ member ∈ members, member.2.everyNumber test = true := by
  unfold readMembers at h
  split at h
  · obtain ⟨⟨name, afterName⟩, -, h⟩ := Option.bind_eq_some_iff.1 h
    simp only at h
    split at h
    · obtain ⟨⟨value, after⟩, hread, h⟩ := Option.bind_eq_some_iff.1 h
      simp only at h
      split at h
      · cases h
        exact List.forall_mem_singleton.2 (ih.value hread)
      · obtain ⟨⟨tail, last⟩, htail, h⟩ := Option.bind_eq_some_iff.1 h
        cases h
        exact List.forall_mem_cons.2 ⟨ih.value hread, ih.members htail⟩
      · cases h
    · cases h
  · cases h

/-- If every number that is read passes a test, those of a document do, at any depth. -/
theorem of_readNumber (htest : ∀ cs n rest, readNumber cs = some (n, rest) → test n = true)
    (fuel : Nat) : NumbersPass test fuel := by
  induction fuel with
  | zero => exact ⟨nofun, nofun, nofun⟩
  | succ fuel ih => exact ⟨ih.value_succ htest, ih.items_succ, ih.members_succ⟩

end NumbersPass

/-- **Every number of a document is well formed**, wherever it stands. -/
theorem everyNumber_of_parse {text : String} {json : Json} (h : parse text = some json) :
    json.everyNumber (fun n => decide n.WellFormed) = true := by
  obtain ⟨⟨read, rest⟩, hread, h⟩ := Option.bind_eq_some_iff.1 h
  simp only [Option.ite_none_right_eq_some, Option.some.injEq] at h
  obtain ⟨-, rfl⟩ := h
  refine (NumbersPass.of_readNumber ?_ _).value hread
  intro cs n rest hnumber
  exact decide_eq_true (wellFormed_of_readNumber hnumber)

end

theorem readValue_of_readNumber {fuel depth : Nat} {c : Char} {cs : List Char} {n : JsonNumber}
    {rest : List Char} (hstart : c ∈ numberStarts) (h : readNumber (c :: cs) = some (n, rest)) :
    readValue .full (fuel + 1) depth (c :: cs) = some (.number n, rest) := by
  rw [readValue_number hstart, readAnyNumber, h]
  rfl

/-- A text that is a number is read as the number. -/
theorem parse_of_readNumber {text : String} {c : Char} {cs : List Char} {n : JsonNumber}
    (htext : text.toList = c :: cs) (hstart : c ∈ numberStarts)
    (h : readNumber (c :: cs) = some (n, [])) : parse text = some (.number n) := by
  rw [parse, htext, parseChars, List.length_cons, Nat.mul_add,
    readValue_of_readNumber hstart h]
  rfl

/-! ## Places -/

/-- A test of all numbers of a document is passed by the number at a place. -/
theorem test_of_at? {test : JsonNumber → Bool} {json : Json} {n : JsonNumber} {place : Place}
    (htest : json.everyNumber test = true) (h : json.at? place = some (.number n)) :
    test n = true := by
  fun_induction Json.at? json place with
  | case1 json =>
    obtain rfl : json = .number n := by simpa using h
    exact htest
  | case2 items index rest ih =>
    obtain ⟨item, hitem, h⟩ := Option.bind_eq_some_iff.1 h
    exact ih item (everyNumber_array.1 htest item (List.mem_of_getElem? hitem)) h
  | case3 members name rest ih =>
    obtain ⟨member, hmember, h⟩ := Option.bind_eq_some_iff.1 h
    exact ih member (everyNumber_object.1 htest _ (Entries.mem_of_get? hmember)) h
  | case4 => cases h

end DynamicSql.Json

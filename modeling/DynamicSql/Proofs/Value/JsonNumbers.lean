import DynamicSql.Proofs.Binary64.ShortestText
import DynamicSql.Proofs.Json.Numbers
import DynamicSql.Proofs.Value.JsonForm

/-!
# Numbers of documents become integers and decimals

A value has the places of its document, and at each of them the value of what the document has
there (`at?_ofCanonical`).  A number of at most 96 bits before the point becomes an integer or a
decimal, whatever its exponent (`ofNumber_of_lt`).  A greater one fits no decimal, by none of
the ways that lead to one, and becomes null (`ofNumber_of_le`); no other number does.  Since a
number is rounded before it is made a decimal, its text can be that of a decimal all the same
(`null_of_greatest_decimal`).
-/

namespace DynamicSql.Value

open Text (isDigit digitsFrom natText pointed)

/-! ## Places -/

/-- A number becomes a value that has no parts. -/
theorem ofNumber_cases (n : JsonNumber) :
    (∃ i, ofNumber n = .integer i) ∨ (∃ d, ofNumber n = .decimal d) ∨ ofNumber n = .null := by
  have hdecimal : ∀ result : Option Decimal,
      (∃ d, (result.map Value.decimal).getD .null = .decimal d) ∨
        (result.map Value.decimal).getD .null = .null := by
    intro result
    cases result with
    | none => exact .inr rfl
    | some d => exact .inl ⟨d, rfl⟩
  unfold ofNumber
  split
  · split
    · exact .inl ⟨_, rfl⟩
    · exact .inr (hdecimal _)
  · exact .inr (hdecimal _)

/-- A value has at a place the value of what its document has there. -/
theorem at?_ofCanonical (json : Json) (place : Place) :
    (ofCanonical json).at? place = (json.at? place).map ofCanonical := by
  fun_induction Json.at? json place with
  | case1 json => simp [at?]
  | case2 items index rest ih =>
    rw [ofCanonical, at?, ofItems_eq, List.getElem?_map]
    cases items[index]? with
    | none => rfl
    | some item => exact ih item
  | case3 members name rest ih =>
    rw [ofCanonical, at?, ofMembers_eq, Entries.get?_map]
    cases Entries.get? members name with
    | none => rfl
    | some member => exact ih member
  | case4 place json hnil harray hobject =>
    -- neither the document nor its value has a part for the step
    obtain ⟨step, rest, rfl⟩ := List.exists_cons_of_ne_nil hnil
    cases json with
    | number n =>
      rw [ofCanonical]
      rcases ofNumber_cases n with ⟨i, hvalue⟩ | ⟨d, hvalue⟩ | hvalue <;>
        (rw [hvalue]; cases step <;> rfl)
    | array items =>
      cases step with
      | item index => exact (harray items index rest rfl rfl).elim
      | member name => rfl
    | object members =>
      cases step with
      | item index => rfl
      | member name => exact (hobject members name rest rfl rfl).elim
    | _ => cases step <;> rfl

/-! ## Numbers of at most 96 bits -/

/-- A number of documents that is no 64-bit integer is read from its digits. -/
theorem decimalOfNumber_of_integer {i : Int} (hsign : 0 ≤ i) (hroom : i < twoPow 96) :
    (decimalOfNumber (.integer i)).isSome = true := by
  have htext : (JsonNumber.integer i).text = natText i.natAbs := if_neg (not_lt.2 hsign)
  have hdigits : ∀ c ∈ natText i.natAbs, isDigit c = true := fun c => Text.isDigit_of_mem_natText
  have hvalue : digitsFrom 0 (natText i.natAbs) = i.natAbs := Text.digitsValue_natText _
  have hlimit : i.natAbs < twoPow 96 := by omega
  obtain ⟨first, rest, hfirst⟩ := List.exists_cons_of_ne_nil (Text.natText_ne_nil i.natAbs)
  have hread : Decimal.read true (natText i.natAbs) = Decimal.ofParts false i.natAbs 0 := by
    rw [hfirst, Decimal.read_of_isDigit (hdigits first (by simp [hfirst])), ← hfirst,
      Decimal.readDigits_whole hdigits (Text.natText_ne_nil _) (by rwa [hvalue]), hvalue]
  unfold decimalOfNumber
  simp only
  rw [htext, hread, Decimal.ofParts, dif_pos ⟨hlimit, by decide⟩]
  rfl

/-- A number of at most 96 bits before the point becomes an integer or a decimal. -/
theorem ofNumber_of_lt {n : JsonNumber} (h : n.WellFormed) (hsmall : |n.toRat| < 2 ^ 96) :
    (∃ i, ofNumber n = .integer i) ∨ ∃ d, ofNumber n = .decimal d := by
  have hdecimal : (decimalOfNumber n).isSome = true →
      ∃ d, ((decimalOfNumber n).map Value.decimal).getD .null = .decimal d := by
    intro hsome
    obtain ⟨d, hd⟩ := Option.isSome_iff_exists.1 hsome
    exact ⟨d, by rw [hd]; rfl⟩
  cases n with
  | integer i =>
    obtain ⟨hleast, hgreatest⟩ : int64Least ≤ i ∧ i < twoPow 64 := h
    unfold ofNumber
    simp only
    cases hfits : int64? i with
    | some small => exact .inl ⟨small, rfl⟩
    | none =>
      -- only integers above those of 64 bits with a sign are left
      have hlarge : int64Greatest < i := by
        have := int64?_eq_none_iff.1 hfits
        omega
      have hlimits : twoPow 64 < twoPow 96 := by decide
      unfold int64Greatest at hlarge
      exact .inr (hdecimal (decimalOfNumber_of_integer (by omega) (by omega)))
  | float x =>
    refine .inr (hdecimal ?_)
    obtain ⟨d, hd⟩ := Option.isSome_iff_exists.1 ((Binary64.isSome_toDecimal_iff h).2 hsmall)
    unfold decimalOfNumber
    simp only
    split
    · rfl
    · split
      · rfl
      · rw [hd]
        rfl

/-! ## Greater numbers -/

/-- The text of a floating-point number of more than 96 bits is no decimal. -/
theorem readScientific_text {x : Binary64} (h : x.WellFormed) (hlarge : 2 ^ 96 ≤ |x.toRat|) :
    'e' ∈ x.text ∧ Decimal.readScientific x.text = none := by
  obtain ⟨d, k, hvalue, hlength, hfirst, htext⟩ := Binary64.text_of_le h hlarge
  have hdigits : ∀ c ∈ natText d, isDigit c = true := fun c => Text.isDigit_of_mem_natText
  rw [htext]
  refine ⟨by simp, Decimal.readScientific_eq_none ?_ ?_⟩
  · intro c hc
    have hdigit : isDigit c = true ∨ c = '.' ∨ c = '-' := by
      rcases List.mem_append.1 hc with hc | hc
      · exact .inr (.inr (by split at hc <;> simp_all))
      · exact (Text.mem_pointed hc).elim (fun hpoint => .inr (.inl hpoint))
          fun hc => .inl (hdigits c hc)
    constructor <;> (rintro rfl; rcases hdigit with h | h | h <;> cases h)
  · intro read hread
    by_cases hexponent : (natText d).length + k = 29
    · -- with exponent 28 the digits are read and then multiplied by a power of ten
      have hk := hfirst hexponent
      have hd : d < twoPow 96 :=
        (Text.lt_tenPow_length d).trans (tenPow_lt (by omega))
      have hdigitsValue : digitsFrom 0 (natText d) = d := Text.digitsValue_natText d
      rw [Decimal.read_pointed hdigits (Text.natText_ne_nil d) (by rwa [hdigitsValue])
        (by omega), hdigitsValue] at hread
      obtain ⟨hcoefficient, hscale⟩ := Decimal.parts_of_ofParts hread
      rw [hcoefficient, hscale]
      refine ⟨by omega, fun _ => ?_⟩
      have hsplit : (natText d).length + k - 1 = k + ((natText d).length - 1) := by
        have := List.length_pos_iff.2 (Text.natText_ne_nil d)
        omega
      calc twoPow 96 * tenPow ((natText d).length - 1)
          ≤ d * tenPow k * tenPow ((natText d).length - 1) := Nat.mul_le_mul_right _ hvalue
        _ = d * tenPow ((natText d).length + k - 1) := by
            rw [hsplit, tenPow_add, Nat.mul_assoc]
    · have hscale := read.scale_le
      exact ⟨by omega, by omega⟩

/-- A number of more than 96 bits before the point becomes null. -/
theorem ofNumber_of_le {n : JsonNumber} (h : n.WellFormed) (hlarge : 2 ^ 96 ≤ |n.toRat|) :
    ofNumber n = .null := by
  cases n with
  | integer i =>
    obtain ⟨hleast, hgreatest⟩ : int64Least ≤ i ∧ i < twoPow 64 := h
    have hlimit : twoPow 64 = 18446744073709551616 := rfl
    have hlarge : (2 : ℚ) ^ 96 ≤ |(i : ℚ)| := hlarge
    have habs : (2 : ℤ) ^ 96 ≤ |i| := by exact_mod_cast hlarge
    unfold int64Least at hleast
    norm_num [le_abs] at habs
    omega
  | float x =>
    obtain ⟨hmem, hscientific⟩ := readScientific_text h hlarge
    have hnone : x.toDecimal = none := by
      rw [Option.eq_none_iff_forall_ne_some]
      intro d hd
      exact not_lt.2 hlarge ((Binary64.isSome_toDecimal_iff h).1 (by rw [hd]; rfl))
    unfold ofNumber decimalOfNumber
    simp only
    split
    · rename_i d hread
      exact absurd hmem (Decimal.not_mem_of_read hread)
    · rw [show (JsonNumber.float x).text = x.text from rfl, hscientific, hnone]
      rfl

/-! ## Null in the value of a document -/

/-- **Null stands exactly for null and for the numbers that are read as `2 ^ 96` or more.**
Wherever a document that is read has a number of at most 96 bits before the point, its value has
an integer or a decimal there. -/
theorem null_at_iff {text : String} {json : Json} (h : Json.parse text = some json)
    (place : Place) :
    ((ofJson json).at? place = some .null ↔
      json.canonical.at? place = some .null ∨
        ∃ n, json.canonical.at? place = some (.number n) ∧ 2 ^ 96 ≤ |n.toRat|) ∧
    ∀ n, json.canonical.at? place = some (.number n) → |n.toRat| < 2 ^ 96 →
      (∃ i, (ofJson json).at? place = some (.integer i)) ∨
        ∃ d, (ofJson json).at? place = some (.decimal d) := by
  have hvalue : (ofJson json).at? place = (json.canonical.at? place).map ofCanonical :=
    at?_ofCanonical json.canonical place
  have hnumber : ∀ n, json.canonical.at? place = some (.number n) → n.WellFormed := by
    intro n hn
    have htest := Json.everyNumber_canonical (Json.everyNumber_of_parse h)
    exact of_decide_eq_true (Json.test_of_at? htest hn)
  rw [hvalue]
  constructor
  · constructor
    · intro hnull
      obtain ⟨part, hpart, hnull⟩ := Option.map_eq_some_iff.1 hnull
      cases part with
      | null => exact .inl hpart
      | number n =>
        -- a smaller number would not be null
        refine .inr ⟨n, hpart, not_lt.1 fun hsmall => ?_⟩
        rw [ofCanonical] at hnull
        rcases ofNumber_of_lt (hnumber n hpart) hsmall with ⟨i, hi⟩ | ⟨d, hd⟩
        · rw [hi] at hnull
          cases hnull
        · rw [hd] at hnull
          cases hnull
      | _ => rw [ofCanonical] at hnull; cases hnull
    · rintro (hnull | ⟨n, hn, hlarge⟩)
      · rw [hnull, Option.map_some, ofCanonical]
      · rw [hn, Option.map_some, ofCanonical, ofNumber_of_le (hnumber n hn) hlarge]
  · intro n hn hsmall
    rw [hn, Option.map_some, ofCanonical]
    rcases ofNumber_of_lt (hnumber n hn) hsmall with ⟨i, hi⟩ | ⟨d, hd⟩
    · exact .inl ⟨i, congrArg some hi⟩
    · exact .inr ⟨d, congrArg some hd⟩

/-- A number of more than 96 bits, one half and null. -/
def row : Json :=
  .array [.number (.float ⟨false, 5684341886080801, 44⟩), .number (.float ⟨false, twoPow 52, -53⟩),
    .null]

theorem parse_row : Json.parse "[1e29,0.5,null]" = some row := by
  have htext : "[1e29,0.5,null]".toList = '[' :: '1' :: ['e', '2', '9', ',', '0', '.', '5', ',',
      'n', 'u', 'l', 'l', ']'] := by decide
  have hlast : Json.readItems .full 29 126 ['n', 'u', 'l', 'l', ']'] = some ([.null], []) :=
    Json.readItems_last rfl
  have hnext : Json.readItems .full 30 126 ('0' :: ['.', '5', ',', 'n', 'u', 'l', 'l', ']']) =
      some ([.number (.float ⟨false, twoPow 52, -53⟩), .null], []) :=
    Json.readItems_next (Json.readValue_of_readNumber (by decide) (by decide +kernel)) hlast
  have hitems : Json.readItems .full 31 126
        ('1' :: ['e', '2', '9', ',', '0', '.', '5', ',', 'n', 'u', 'l', 'l', ']']) =
      some ([.number (.float ⟨false, 5684341886080801, 44⟩),
        .number (.float ⟨false, twoPow 52, -53⟩), .null], []) :=
    Json.readItems_next (Json.readValue_of_readNumber (by decide) (by decide +kernel)) hnext
  rw [Json.parse, htext, Json.parseChars]
  show (Json.readValue .full (31 + 1) (126 + 1) _).bind _ = _
  rw [Json.readValue_array rfl (by decide) hitems]
  rfl

/-- Of the two numbers of the row, the first becomes null and the second does not. -/
theorem null_at_iff_row :
    Json.parse "[1e29,0.5,null]" = some row ∧ (ofJson row).at? [.item 0] = some .null ∧
      ((∃ i, (ofJson row).at? [.item 1] = some (.integer i)) ∨
        ∃ d, (ofJson row).at? [.item 1] = some (.decimal d)) := by
  have hlarge : 2 ^ 96 ≤ |(JsonNumber.float ⟨false, 5684341886080801, 44⟩).toRat| :=
    (Binary64.le_abs_toRat_iff (by decide)).2 (by decide)
  have hsmall : |(JsonNumber.float ⟨false, twoPow 52, -53⟩).toRat| < 2 ^ 96 :=
    (Binary64.isSome_toDecimal_iff (by decide)).1 (by decide +kernel)
  exact ⟨parse_row, (null_at_iff parse_row [.item 0]).1.2 (.inr ⟨_, rfl, hlarge⟩),
    (null_at_iff parse_row [.item 1]).2 _ rfl hsmall⟩

/-- The text of the greatest decimal is read as it.  Written in a document, it is rounded up to
`2 ^ 96` before it is made a decimal, and so null stands where the document has a number. -/
theorem null_of_greatest_decimal :
    (∃ d, Decimal.read true "79228162514264337593543950335".toList = .ok d ∧
      d.coefficient = twoPow 96 - 1 ∧ d.scale = 0) ∧
    ∃ json, Json.parse "79228162514264337593543950335" = some json ∧
      json.canonical.at? [] ≠ some .null ∧ (ofJson json).at? [] = some .null := by
  have hchars : "79228162514264337593543950335".toList =
      '7' :: "9228162514264337593543950335".toList := by decide
  have hread : Decimal.read true "79228162514264337593543950335".toList =
      .ok ⟨false, twoPow 96 - 1, 0, by decide, by decide⟩ := by
    rw [hchars]
    rfl
  have hparse : Json.parse "79228162514264337593543950335" =
      some (.number (.float ⟨false, twoPow 52, 44⟩)) :=
    Json.parse_of_readNumber hchars (by decide) (by decide +kernel)
  have hlarge : 2 ^ 96 ≤ |(JsonNumber.float ⟨false, twoPow 52, 44⟩).toRat| :=
    (Binary64.le_abs_toRat_iff (by decide)).2 (by decide)
  have hnull : (ofJson (.number (.float ⟨false, twoPow 52, 44⟩))).at? [] = some .null :=
    congrArg some (ofNumber_of_le (n := .float _) (by decide) hlarge)
  exact ⟨⟨_, hread, rfl, rfl⟩, _, hparse, nofun, hnull⟩

end DynamicSql.Value

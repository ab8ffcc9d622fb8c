import DynamicSql.Decimal.Text
import DynamicSql.Proofs.Text.Characters

/-!
# Reading decimal texts back

A decimal is written with all its places, so the text of one that is not negative has
digits, and a point with as many digits behind it as there are places.  Reading takes such
digits one after the other as long as there is room (`readDigits_append`), and since the
coefficient of a decimal has room, so has everything before it: `parse_text_of_nonneg`.
-/

namespace DynamicSql

namespace Text

/-- The value of digits that follow a number. -/
def digitsFrom (n : Nat) (cs : List Char) : Nat := cs.foldl (fun n c => 10 * n + digitValue c) n

theorem digitsFrom_append (n : Nat) (cs more : List Char) :
    digitsFrom n (cs ++ more) = digitsFrom (digitsFrom n cs) more := List.foldl_append

/-- More digits only make a number greater. -/
theorem le_digitsFrom (n : Nat) (cs : List Char) : n ≤ digitsFrom n cs := by
  induction cs generalizing n with
  | nil => exact Nat.le_refl n
  | cons c cs ih =>
    have hrest : 10 * n + digitValue c ≤ digitsFrom n (c :: cs) := ih (10 * n + digitValue c)
    omega

theorem digitsFrom_zeros (k : Nat) : digitsFrom 0 (List.replicate k '0') = 0 := by
  induction k with
  | zero => rfl
  | succ k ih => exact ih

end Text

namespace Decimal

open Text (isDigit digitValue digitsValue digitsFrom natText)

/-! ## The digits of a text -/

/-- A decimal is written with digits before the point, and as many behind it as it has
places; without places there is no point. -/
theorem exists_pointText (coefficient scale : Nat) : ∃ whole places : List Char,
    (∀ c ∈ whole ++ places, isDigit c = true) ∧ whole ≠ [] ∧ places.length = scale ∧
      digitsFrom 0 (whole ++ places) = coefficient ∧
      pointText coefficient scale =
        if scale = 0 then whole ++ places else whole ++ '.' :: places := by
  let digits := natText coefficient
  let padded := List.replicate (scale + 1 - digits.length) '0' ++ digits
  have hlength : padded.length = scale + 1 - digits.length + digits.length := by
    rw [List.length_append, List.length_replicate]
  have hsplit : padded.take (padded.length - scale) ++ padded.drop (padded.length - scale) =
      padded := List.take_append_drop _ _
  refine ⟨padded.take (padded.length - scale), padded.drop (padded.length - scale), ?_, ?_, ?_,
    ?_, ?_⟩
  · intro c hc
    rw [hsplit, List.mem_append] at hc
    rcases hc with hc | hc
    · rw [List.eq_of_mem_replicate hc]
      rfl
    · exact Text.isDigit_of_mem_natText hc
  · refine List.ne_nil_of_length_pos ?_
    rw [List.length_take]
    omega
  · rw [List.length_drop]
    omega
  · rw [hsplit, Text.digitsFrom_append, Text.digitsFrom_zeros]
    exact Text.digitsValue_natText coefficient
  · rw [hsplit]
    rfl

/-- A decimal that is not negative and has places is written as digits, a point and
digits. -/
theorem exists_text {d : Decimal} (h : d.negative = false) (hscale : d.scale ≠ 0) :
    ∃ whole places : List Char, (∀ c ∈ whole ++ places, isDigit c = true) ∧ whole ≠ [] ∧
      places ≠ [] ∧ d.text.toList = whole ++ '.' :: places := by
  obtain ⟨whole, places, hdigits, hwhole, hplaces, -, htext⟩ :=
    exists_pointText d.coefficient d.scale
  refine ⟨whole, places, hdigits, hwhole, ?_, ?_⟩
  · rintro rfl
    exact hscale hplaces.symm
  · rw [text, String.toList_ofList, chars, h, htext, if_neg hscale]
    rfl

/-! ## Reading -/

/-- Digits are read one after the other, as long as there is room for them. -/
theorem readDigits_append {exact negative point started : Bool} {n scale : Nat}
    {digits : List Char} (hdigits : ∀ c ∈ digits, isDigit c = true)
    (hroom : digitsFrom n digits < twoPow 96)
    (hplaces : point = true → scale + digits.length ≤ 28)
    (hstarted : started = true ∨ digits ≠ []) (rest : List Char) :
    readDigits exact negative point started n scale (digits ++ rest) =
      readDigits exact negative point true (digitsFrom n digits)
        (if point then scale + digits.length else scale) rest := by
  induction digits generalizing started n scale with
  | nil =>
    obtain rfl : started = true := by simpa using hstarted
    cases point <;> rfl
  | cons c digits ih =>
    have hdigit : isDigit c = true := hdigits c List.mem_cons_self
    have hplace : (point && decide (scale ≥ 28)) = false := by
      cases point with
      | false => rfl
      | true =>
        have := hplaces rfl
        rw [List.length_cons] at this
        simp only [Bool.true_and, decide_eq_false_iff_not]
        omega
    have hnext : n * 10 + digitValue c = 10 * n + digitValue c := by rw [Nat.mul_comm]
    have hfits : 10 * n + digitValue c < twoPow 96 :=
      Nat.lt_of_le_of_lt (Text.le_digitsFrom _ digits) hroom
    rw [List.cons_append, readDigits, hplace]
    simp only [hdigit, hnext, hfits, Bool.false_eq_true, if_false, if_true]
    rw [ih (fun c hc => hdigits c (List.mem_cons_of_mem _ hc)) hroom ?_ (.inl rfl)]
    · cases point with
      | false => rfl
      | true =>
        simp only [if_true, List.length_cons]
        rw [Nat.add_assoc, Nat.add_comm 1]
        rfl
    · rintro rfl
      have := hplaces rfl
      rw [List.length_cons] at this
      simp only [if_true]
      omega

section

variable {exact negative : Bool} {whole places : List Char}

/-- Digits without a point are a coefficient. -/
theorem readDigits_whole (hdigits : ∀ c ∈ whole, isDigit c = true) (hwhole : whole ≠ [])
    (hroom : digitsFrom 0 whole < twoPow 96) :
    readDigits exact negative false false 0 0 whole = ofParts negative (digitsFrom 0 whole) 0 := by
  have hread : readDigits exact negative false false 0 0 (whole ++ []) =
      readDigits exact negative false true (digitsFrom 0 whole) 0 [] :=
    readDigits_append hdigits hroom (by simp) (.inr hwhole) []
  rw [List.append_nil] at hread
  rw [hread]
  rfl

/-- The digits behind a point are places. -/
theorem readDigits_point (hdigits : ∀ c ∈ whole ++ places, isDigit c = true) (hwhole : whole ≠ [])
    (hroom : digitsFrom 0 (whole ++ places) < twoPow 96) (hplaces : places.length ≤ 28) :
    readDigits exact negative false false 0 0 (whole ++ '.' :: places) =
      ofParts negative (digitsFrom 0 (whole ++ places)) places.length := by
  rw [Text.digitsFrom_append] at hroom ⊢
  have hbefore : digitsFrom 0 whole < twoPow 96 :=
    Nat.lt_of_le_of_lt (Text.le_digitsFrom _ places) hroom
  have hpoint : readDigits exact negative false true (digitsFrom 0 whole) 0 ('.' :: places) =
      readDigits exact negative true true (digitsFrom 0 whole) 0 places := rfl
  have hbehind : readDigits exact negative true true (digitsFrom 0 whole) 0 (places ++ []) =
      readDigits exact negative true true (digitsFrom (digitsFrom 0 whole) places)
        (0 + places.length) [] :=
    readDigits_append (fun c hc => hdigits c (List.mem_append_right _ hc)) hroom
      (by omega) (.inl rfl) []
  rw [List.append_nil, Nat.zero_add] at hbehind
  rw [readDigits_append (fun c hc => hdigits c (List.mem_append_left _ hc)) hbefore
    (by simp) (.inr hwhole), if_neg Bool.false_ne_true, hpoint, hbehind]
  rfl

end

/-- A text that starts with a digit has no sign. -/
theorem read_of_isDigit {exact : Bool} {c : Char} {rest : List Char} (h : isDigit c = true) :
    read exact (c :: rest) = readDigits exact false false false 0 0 (c :: rest) := by
  have hminus : c ≠ '-' := by
    rintro rfl
    cases h
  have hplus : c ≠ '+' := by
    rintro rfl
    cases h
  simp [read, hminus, hplus]

/-- **A decimal that is not negative is read back from its text**, with all its places. -/
theorem parse_text_of_nonneg {d : Decimal} (h : d.negative = false) :
    parse d.text = .ok d := by
  obtain ⟨negative, coefficient, scale, hcoefficient, hscale⟩ := d
  obtain rfl : negative = false := h
  obtain ⟨whole, places, hdigits, hwhole, hplaces, hvalue, htext⟩ :=
    exists_pointText coefficient scale
  have hroom : digitsFrom 0 (whole ++ places) < twoPow 96 := hvalue ▸ hcoefficient
  have hchars : (text ⟨false, coefficient, scale, hcoefficient, hscale⟩).toList =
      pointText coefficient scale := by
    rw [text, String.toList_ofList]
    rfl
  have hsign : read false (pointText coefficient scale) =
      readDigits false false false false 0 0 (pointText coefficient scale) := by
    obtain ⟨c, tail, rfl⟩ := List.exists_cons_of_ne_nil hwhole
    have hc : isDigit c = true := hdigits c (by simp)
    rw [htext]
    split <;> exact read_of_isDigit hc
  have hdigitsRead : readDigits false false false false 0 0 (pointText coefficient scale) =
      ofParts false coefficient scale := by
    rw [htext]
    by_cases hzero : scale = 0
    · rw [if_pos hzero, readDigits_whole hdigits (by simp [hwhole]) hroom, hvalue, hzero]
    · rw [if_neg hzero, readDigits_point hdigits hwhole hroom (hplaces ▸ hscale), hvalue, hplaces]
  rw [parse, hchars, hsign, hdigitsRead, ofParts, dif_pos ⟨hcoefficient, hscale⟩]
  rfl

end Decimal

end DynamicSql

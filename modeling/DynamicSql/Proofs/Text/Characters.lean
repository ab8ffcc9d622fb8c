import DynamicSql.Powers
import DynamicSql.Text.Blank
import DynamicSql.Text.Identifier

/-!
# The characters of names and numerals

A name starts with a character that is neither blank nor a digit, a numeral is made of
digits, and so neither of them is cut or trimmed within.
-/

namespace DynamicSql.Text

variable {c : Char}

/-- The code points of the characters that are blank. -/
def blankCodes : List Nat :=
  List.range' 9 5 ++ [32, 0x85, 0xA0, 0x1680] ++ List.range' 0x2000 11 ++
    [0x2028, 0x2029, 0x202F, 0x205F, 0x3000]

/-- The code points of the digits. -/
def digitCodes : List Nat := List.range' 48 10

theorem mem_blankCodes (h : isBlank c = true) : c.toNat ∈ blankCodes := by
  simp only [isBlank, Bool.or_eq_true, Bool.and_eq_true, decide_eq_true_eq, beq_iff_eq] at h
  simp only [blankCodes, List.mem_append, List.mem_range'_1, List.mem_cons, List.not_mem_nil,
    or_false]
  omega

theorem mem_digitCodes (h : isDigit c = true) : c.toNat ∈ digitCodes := by
  have hrange : 48 ≤ c.toNat ∧ c.toNat ≤ 57 := by
    simpa [isDigit, Char.le_def, UInt32.le_iff_toNat_le] using h
  rw [digitCodes, List.mem_range'_1]
  omega

/-- Blank characters and digits do not start identifiers. -/
theorem not_mem_of_isIdentifierStart (h : isIdentifierStart c = true) :
    c.toNat ∉ blankCodes ++ digitCodes := by
  have hcodes : ∀ n ∈ blankCodes ++ digitCodes, isIdentifierStart (Char.ofNat n) = false := by
    decide +kernel
  intro hmem
  have hno := hcodes c.toNat hmem
  rw [Char.ofNat_toNat, h] at hno
  cases hno

theorem isBlank_of_isIdentifierStart (h : isIdentifierStart c = true) : isBlank c = false := by
  rw [Bool.eq_false_iff]
  intro hblank
  exact not_mem_of_isIdentifierStart h (List.mem_append_left _ (mem_blankCodes hblank))

theorem isDigit_of_isIdentifierStart (h : isIdentifierStart c = true) : isDigit c = false := by
  rw [Bool.eq_false_iff]
  intro hdigit
  exact not_mem_of_isIdentifierStart h (List.mem_append_right _ (mem_digitCodes hdigit))

theorem isBlank_of_isDigit (h : isDigit c = true) : isBlank c = false := by
  have hcodes : ∀ n ∈ blankCodes, n ∉ digitCodes := by decide
  rw [Bool.eq_false_iff]
  intro hblank
  exact hcodes _ (mem_blankCodes hblank) (mem_digitCodes h)

theorem isDigit_of_isBlank (h : isBlank c = true) : isDigit c = false := by
  rw [Bool.eq_false_iff]
  intro hdigit
  rw [isBlank_of_isDigit hdigit] at h
  cases h

/-- A blank character ends an identifier. -/
theorem isIdentifierContinue_of_isBlank (h : isBlank c = true) :
    isIdentifierContinue c = false := by
  have hcodes : ∀ n ∈ blankCodes, isIdentifierContinue (Char.ofNat n) = false := by
    decide +kernel
  have hno := hcodes c.toNat (mem_blankCodes h)
  rwa [Char.ofNat_toNat] at hno

/-- What is taken up to a stop is what stands before it. -/
theorem takeWhile_append_stop {p : Char → Bool} {tail rest : List Char}
    (htail : ∀ x ∈ tail, p x = true) (hrest : rest.head?.all (fun x => !p x) = true) :
    (tail ++ rest).takeWhile p = tail ∧ (tail ++ rest).dropWhile p = rest := by
  have hstop : rest.takeWhile p = [] ∧ rest.dropWhile p = rest := by
    cases rest with
    | nil => exact ⟨rfl, rfl⟩
    | cons x more =>
      have hx : p x = false := by simpa using hrest
      simp [List.takeWhile, List.dropWhile, hx]
  rw [List.takeWhile_append_of_pos htail, List.dropWhile_append_of_pos htail, hstop.1, hstop.2]
  exact ⟨List.append_nil tail, rfl⟩

/-- Every text is cut at its first stop. -/
theorem exists_stop (p : Char → Bool) (cs : List Char) :
    ∃ tail rest, cs = tail ++ rest ∧ (∀ x ∈ tail, p x = true) ∧
      rest.head?.all (fun x => !p x) = true := by
  refine ⟨cs.takeWhile p, cs.dropWhile p, List.takeWhile_append_dropWhile.symm,
    List.all_eq_true.1 List.all_takeWhile, ?_⟩
  have hstop := List.head?_dropWhile_not p cs
  cases hhead : (cs.dropWhile p).head? with
  | none => rfl
  | some x =>
    rw [hhead] at hstop
    simp [hstop]

/-! ## Numerals -/

theorem isDigit_of_mem_natText {n : Nat} (h : c ∈ natText n) : isDigit c = true :=
  Nat.isDigit_of_mem_toDigits (by decide) (by decide) h

theorem natText_ne_nil (n : Nat) : natText n ≠ [] := Nat.toDigits_ne_nil

/-- A numeral has the value that it was made for. -/
theorem digitsValue_natText (n : Nat) : digitsValue (natText n) = n :=
  Nat.ofDigitChars_toDigits (by decide) (by decide)

theorem trim_of_isBlank {cs : List Char} (h : ∀ c ∈ cs, isBlank c = false) : trim cs = cs := by
  have hdrop : ∀ cs : List Char, (∀ c ∈ cs, isBlank c = false) → cs.dropWhile isBlank = cs := by
    intro cs h
    cases cs with
    | nil => rfl
    | cons c rest => simp [List.dropWhile, h c List.mem_cons_self]
  unfold trim
  rw [hdrop cs h, hdrop cs.reverse fun c hc => h c (List.mem_reverse.1 hc), List.reverse_reverse]

/-- A numeral is read back if it is within bounds. -/
theorem readBelow_natText (bound n : Nat) :
    readBelow bound (natText n) = if n < bound then some n else none := by
  have hdigits : ∀ c ∈ natText n, isDigit c = true := fun c => isDigit_of_mem_natText
  have hvalue := digitsValue_natText n
  obtain ⟨first, rest, hchars⟩ := List.exists_cons_of_ne_nil (natText_ne_nil n)
  rw [hchars] at hdigits hvalue ⊢
  have hplus : first ≠ '+' := by
    rintro rfl
    exact absurd (hdigits '+' List.mem_cons_self) (by decide)
  have hall : (first :: rest).all isDigit = true := List.all_eq_true.2 hdigits
  simp [readBelow, hplus, hall, hvalue]

/-- A numeral within bounds is read back, also where it would be trimmed first. -/
theorem readBelow_trim_natText {bound n : Nat} (hn : n < bound) :
    readBelow bound (trim (natText n)) = some n := by
  have hdigits : ∀ c ∈ natText n, isDigit c = true := fun c => isDigit_of_mem_natText
  rw [trim_of_isBlank fun c hc => isBlank_of_isDigit (hdigits c hc), readBelow_natText, if_pos hn]

/-- A numeral with `k` digits is below `10 ^ k`. -/
theorem length_natText_le_iff {n k : Nat} (hk : 0 < k) :
    (natText n).length ≤ k ↔ n < tenPow k := Nat.length_toDigits_le_iff (by decide) hk

theorem lt_tenPow_length (n : Nat) : n < tenPow (natText n).length :=
  (length_natText_le_iff (List.length_pos_iff.2 (natText_ne_nil n))).1 (Nat.le_refl _)

end DynamicSql.Text

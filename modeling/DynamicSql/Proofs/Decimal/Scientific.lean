import DynamicSql.Proofs.Binary64.Rounding
import DynamicSql.Proofs.Decimal.Text

/-!
# Reading numbers with an exponent

Digits with a point behind the first one are read as a coefficient with its places
(`read_pointed`).  With an exponent behind them they are no exact text
(`forall_mem_of_read`), and no decimal at all if the exponent is above 28, or if the digits
are no fewer than 96 bits when the exponent has moved the point (`readScientific_eq_none`).
-/

namespace DynamicSql

/-- Digits with a point behind the first one, if there are more. -/
def Text.pointed : List Char → List Char
  | first :: next :: rest => first :: '.' :: next :: rest
  | digits => digits

theorem Text.mem_pointed {digits : List Char} {c : Char} (h : c ∈ pointed digits) :
    c = '.' ∨ c ∈ digits := by
  match digits with
  | [] => exact .inr h
  | [first] => exact .inr h
  | first :: next :: rest => simpa [pointed, or_left_comm] using h

namespace Decimal

open Text (isDigit digitsFrom natText pointed)

/-! ## Large fractions -/

theorem le_roundHalf {tieUp : Bool} {num den bound : Nat} (hden : 0 < den)
    (h : bound * den ≤ num) : bound ≤ roundHalf tieUp num den := by
  unfold roundHalf
  split
  · exact ((Nat.le_div_iff_mul_le hden).2 h).trans (Nat.le_succ _)
  · exact Binary64.le_roundHalfEven hden h

section

variable {tieUp : Nat → Bool} {negative : Bool} {num den : Nat}

theorem nearest_zero (hplaces : 0 ≤ 28) :
    nearest tieUp negative num den 0 hplaces =
      if h : roundHalf (tieUp 0) num den < twoPow 96 then
        some ⟨negative, roundHalf (tieUp 0) num den, 0, h, hplaces⟩
      else none := rfl

theorem nearest_succ {places : Nat} (hplaces : places + 1 ≤ 28) :
    nearest tieUp negative num den (places + 1) hplaces =
      if h : roundHalf (tieUp (places + 1)) (num * tenPow (places + 1)) den < twoPow 96 then
        some ⟨negative, _, places + 1, h, hplaces⟩
      else nearest tieUp negative num den places (Nat.le_of_succ_le hplaces) := rfl

/-- Rounding to fewer places does not help where the integer part is too large. -/
theorem nearest_eq_none (hden : 0 < den) (h : twoPow 96 * den ≤ num) (places : Nat)
    (hplaces : places ≤ 28) : nearest tieUp negative num den places hplaces = none := by
  induction places with
  | zero => rw [nearest_zero, dif_neg (not_lt.2 (le_roundHalf hden h))]
  | succ places ih =>
    have hscaled : twoPow 96 * den ≤ num * tenPow (places + 1) :=
      h.trans (Nat.le_mul_of_pos_right _ (tenPow_pos _))
    rw [nearest_succ, dif_neg (not_lt.2 (le_roundHalf hden hscaled))]
    exact ih _

end

theorem natAbs_signed (d : Decimal) : d.signed.natAbs = d.coefficient := by
  unfold signed
  split <;> simp

/-- A product of more than 96 bits overflows. -/
theorem mul_eq_none {a b : Decimal}
    (h : twoPow 96 * tenPow (a.scale + b.scale) ≤ a.coefficient * b.coefficient) :
    a.mul b = none := by
  have hnum : twoPow 96 * tenPow (a.scale + b.scale) ≤ (a.signed * b.signed).natAbs := by
    rwa [Int.natAbs_mul, natAbs_signed, natAbs_signed]
  rw [mul, ofFraction, nearest_eq_none (tenPow_pos _) hnum]
  rfl

/-! ## Exact texts -/

/-- Exact reading looks at every character. -/
theorem forall_mem_of_readDigits {negative point started : Bool} {coefficient scale : Nat}
    {cs : List Char} {d : Decimal}
    (h : readDigits true negative point started coefficient scale cs = .ok d) :
    ∀ c ∈ cs, isDigit c = true ∨ c = '.' ∨ c = '_' := by
  induction cs generalizing point started coefficient scale with
  | nil => simp
  | cons c rest ih =>
    unfold readDigits at h
    simp only [if_true] at h
    split at h
    · cases h
    · split at h
      · rename_i hdigit
        split at h
        · exact List.forall_mem_cons.2 ⟨.inl hdigit, ih h⟩
        · split at h <;> cases h
      · split at h
        · rename_i hpoint
          have hc : c = '.' := by simp at hpoint; exact hpoint.1
          exact List.forall_mem_cons.2 ⟨.inr (.inl hc), ih h⟩
        · split at h
          · rename_i hseparator
            have hc : c = '_' := by simp at hseparator; exact hseparator.1
            exact List.forall_mem_cons.2 ⟨.inr (.inr hc), ih h⟩
          · cases h

/-- An exact text has no exponent. -/
theorem not_mem_of_read {cs : List Char} {d : Decimal} (h : read true cs = .ok d) :
    'e' ∉ cs := by
  have hdigits : ∀ {negative : Bool} {cs : List Char},
      readDigits true negative false false 0 0 cs = .ok d → 'e' ∉ cs := by
    intro negative cs h hmem
    rcases forall_mem_of_readDigits h 'e' hmem with h | h | h <;> cases h
  unfold read at h
  split at h
  · cases h
  · simpa using hdigits h
  · simpa using hdigits h
  · exact hdigits h

/-! ## Texts with an exponent -/

/-- Digits with a point behind the first one are a coefficient with one place fewer than there
are digits. -/
theorem read_pointed {exact negative : Bool} {digits : List Char}
    (hdigits : ∀ c ∈ digits, isDigit c = true) (hne : digits ≠ [])
    (hroom : digitsFrom 0 digits < twoPow 96) (hlength : digits.length ≤ 29) :
    read exact ((if negative then ['-'] else []) ++ pointed digits) =
      ofParts negative (digitsFrom 0 digits) (digits.length - 1) := by
  obtain ⟨first, tail, rfl⟩ := List.exists_cons_of_ne_nil hne
  obtain ⟨behind, hpointed⟩ : ∃ behind, pointed (first :: tail) = first :: behind := by
    cases tail <;> exact ⟨_, rfl⟩
  have hunsigned (negative : Bool) :
      readDigits exact negative false false 0 0 (pointed (first :: tail)) =
        ofParts negative (digitsFrom 0 (first :: tail)) tail.length := by
    cases tail with
    | nil => exact readDigits_whole hdigits hne hroom
    | cons next rest =>
      have hplaces : (next :: rest).length ≤ 28 := Nat.le_of_succ_le_succ hlength
      exact readDigits_point hdigits (List.cons_ne_nil first []) hroom hplaces
  rw [List.length_cons, Nat.add_sub_cancel]
  cases negative with
  | true => exact hunsigned true
  | false =>
    have h := hunsigned false
    rw [hpointed] at h ⊢
    simp only [Bool.false_eq_true, if_false, List.nil_append]
    rw [read_of_isDigit (hdigits first List.mem_cons_self), h]

theorem parts_of_ofParts {negative : Bool} {coefficient scale : Nat} {d : Decimal}
    (h : ofParts negative coefficient scale = .ok d) :
    d.coefficient = coefficient ∧ d.scale = scale := by
  unfold ofParts at h
  split at h
  · cases h
    exact ⟨rfl, rfl⟩
  · cases h

/-- The digits before the exponent are read first, then the exponent. -/
theorem readScientific_natText {base : List Char} (hbase : ∀ c ∈ base, c ≠ 'e' ∧ c ≠ 'E')
    (e : Nat) : readScientific (base ++ 'e' :: natText e) =
      (read false base).toOption.bind fun d =>
        (Text.readBelow (twoPow 32) (natText e)).bind fun e =>
          if e ≤ d.scale then d.withScale? (d.scale - e)
          else if h : e ≤ 28 then d.mul (powerOfTen e h)
          else none := by
  have hplain : ∀ c ∈ base, (c ≠ 'e' && c ≠ 'E') = true := by simpa using hbase
  have hstop : ('e' :: natText e).head?.all (fun c => !(c ≠ 'e' && c ≠ 'E')) = true := rfl
  obtain ⟨htake, hdrop⟩ := Text.takeWhile_append_stop hplain hstop
  obtain ⟨first, rest, hfirst⟩ := List.exists_cons_of_ne_nil (Text.natText_ne_nil e)
  have hminus : first ≠ '-' := by
    have hdigit : isDigit first = true :=
      Text.isDigit_of_mem_natText (n := e) (by rw [hfirst]; exact List.mem_cons_self)
    rintro rfl
    cases hdigit
  unfold readScientific
  rw [htake, hdrop, hfirst]
  simp only [List.tail?_cons, Option.bind_eq_bind, Option.bind_some]
  congr 1
  funext d
  split
  · rename_i heq
    exact absurd (List.cons.inj heq).1 hminus
  · rfl

/-- Digits that an exponent makes too large are no decimal. -/
theorem readScientific_eq_none {base : List Char} (hbase : ∀ c ∈ base, c ≠ 'e' ∧ c ≠ 'E')
    {e : Nat} (h : ∀ d, read false base = .ok d → d.scale < e ∧
      (e ≤ 28 → twoPow 96 * tenPow d.scale ≤ d.coefficient * tenPow e)) :
    readScientific (base ++ 'e' :: natText e) = none := by
  rw [readScientific_natText hbase, Option.bind_eq_none_iff]
  intro d hd
  have hread : read false base = .ok d := by
    cases hresult : read false base with
    | ok read =>
      rw [hresult] at hd
      cases hd
      rfl
    | error fault =>
      rw [hresult] at hd
      cases hd
  obtain ⟨hscale, hlarge⟩ := h d hread
  rw [Option.bind_eq_none_iff]
  intro exponent hexponent
  obtain rfl : e = exponent := by
    rw [Text.readBelow_natText] at hexponent
    simpa using (Option.ite_none_right_eq_some.1 hexponent).2
  rw [if_neg (not_le.2 hscale)]
  by_cases hsmall : e ≤ 28
  · rw [dif_pos hsmall]
    exact mul_eq_none (hlarge hsmall)
  · rw [dif_neg hsmall]

end Decimal

end DynamicSql

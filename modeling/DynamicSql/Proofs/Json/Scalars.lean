import DynamicSql.Json.Contents
import DynamicSql.Json.Parser
import DynamicSql.Json.Printer
import DynamicSql.Proofs.Decimal.Text

/-!
# Reading strings and numbers back

Every character of a string is read back from the way it stands between the quotes
(`readChar_escapeChar`), so every string is (`readString_escaped`).  An integer is read back
from its numeral where no character follows that could go on with it (`readNumber_intText`).
-/

namespace DynamicSql.Json

open Text (isDigit digitsFrom hexText natText)

variable {reading : Reading}

/-! ## Strings -/

theorem readHex_append {cs : List Char} {n : Nat} (h : readHex cs = some (n, []))
    (rest : List Char) : readHex (cs ++ rest) = some (n, rest) := by
  unfold readHex at h
  split at h
  · rename_i a b c d tail
    simp only [Option.bind_eq_bind, Option.bind_eq_some_iff, Option.some.injEq,
      Prod.mk.injEq] at h
    obtain ⟨p, hp, q, hq, r, hr, s, hs, rfl, rfl⟩ := h
    simp [readHex, hp, hq, hr, hs]
  · cases h

/-- A control character is read back from its code. -/
theorem readCodePoint_hexText {c : Char} (h : c.toNat < 32) (rest : List Char) :
    readCodePoint reading (hexText 4 c.toNat ++ rest) = some (c, rest) := by
  have hcodes : ∀ n < 32, readHex (hexText 4 n) = some (n, []) := by decide
  have hlow : c.toNat < 0xD800 := by omega
  rw [readCodePoint, readHex_append (hcodes c.toNat h) rest]
  simp [hlow, Char.ofNat_toNat]

/-- A character is escaped by a letter of its own or by its code, or stands for itself. -/
theorem escapeChar_cases (c : Char) :
    (∃ letter, escapeChar c = ['\\', letter] ∧
      ∀ reading rest, readChar reading ('\\' :: letter :: rest) = some (c, rest)) ∨
    (c.toNat < 32 ∧ escapeChar c = '\\' :: 'u' :: hexText 4 c.toNat) ∨
    (escapeChar c = [c] ∧ c ≠ '"' ∧ c ≠ '\\' ∧ ¬ c.toNat < 32) := by
  by_cases hletter : c ∈ ['"', '\\', '\x08', '\x0c', '\n', '\r', '\t']
  · refine .inl ?_
    simp only [List.mem_cons, List.not_mem_nil, or_false] at hletter
    rcases hletter with rfl | rfl | rfl | rfl | rfl | rfl | rfl <;>
      exact ⟨_, rfl, fun _ _ => rfl⟩
  · refine .inr ?_
    simp only [List.mem_cons, List.not_mem_nil, or_false, not_or] at hletter
    obtain ⟨hquote, hslash, hb, hf, hn, hr, ht⟩ := hletter
    by_cases hcontrol : c.toNat < 32
    · exact .inl ⟨hcontrol, by simp [escapeChar, *]⟩
    · exact .inr ⟨by simp [escapeChar, *], hquote, hslash, hcontrol⟩

/-- A character is read back from the way it stands in a string. -/
theorem readChar_escapeChar (c : Char) (rest : List Char) :
    readChar reading (escapeChar c ++ rest) = some (c, rest) := by
  rcases escapeChar_cases c with ⟨letter, hescape, hread⟩ | ⟨hcontrol, hescape⟩ |
      ⟨hescape, hquote, hslash, hplain⟩
  · rw [hescape]
    exact hread reading rest
  · rw [hescape]
    exact readCodePoint_hexText hcontrol rest
  · rw [hescape, List.singleton_append]
    simp [readChar, hquote, hslash, hplain]

/-- What stands for a character does not start with a quote. -/
theorem exists_cons_escapeChar (c : Char) :
    ∃ first tail, escapeChar c = first :: tail ∧ first ≠ '"' := by
  rcases escapeChar_cases c with ⟨letter, hescape, -⟩ | ⟨-, hescape⟩ | ⟨hescape, hquote, -⟩
  · exact ⟨_, _, hescape, by decide⟩
  · exact ⟨_, _, hescape, by decide⟩
  · exact ⟨_, _, hescape, hquote⟩

/-- Up to its closing quote a string is read character by character. -/
theorem readString_cons {fuel : Nat} {first c : Char} {tail rest cs after : List Char}
    (h : first ≠ '"') (hchar : readChar reading (first :: tail) = some (c, rest))
    (htail : readString reading fuel rest = some (cs, after)) :
    readString reading (fuel + 1) (first :: tail) = some (c :: cs, after) := by
  rw [readString, hchar]
  · show (readString reading fuel rest).bind _ = _
    rw [htail]
    rfl
  · rintro rest heq
    exact h (List.cons.inj heq).1

/-- The characters of a string are read back up to its closing quote. -/
theorem readString_escaped (cs rest : List Char) {fuel : Nat}
    (hfuel : (cs.flatMap escapeChar).length < fuel) :
    readString reading fuel (cs.flatMap escapeChar ++ '"' :: rest) = some (cs, rest) := by
  induction cs generalizing fuel with
  | nil =>
    obtain ⟨fuel, rfl⟩ : ∃ n, fuel = n + 1 := ⟨fuel - 1, by omega⟩
    rfl
  | cons c cs ih =>
    obtain ⟨fuel, rfl⟩ : ∃ n, fuel = n + 1 := ⟨fuel - 1, by omega⟩
    obtain ⟨first, tail, hescape, hquote⟩ := exists_cons_escapeChar c
    rw [List.flatMap_cons, List.length_append, hescape, List.length_cons] at hfuel
    have hchar : readChar reading (escapeChar c ++ (cs.flatMap escapeChar ++ '"' :: rest)) =
        some (c, cs.flatMap escapeChar ++ '"' :: rest) := readChar_escapeChar c _
    rw [List.flatMap_cons, List.append_assoc]
    rw [hescape, List.cons_append] at hchar ⊢
    exact readString_cons hquote hchar (ih (by omega))

/-! ## Numbers -/

/-- Only zero has a numeral that starts with a zero. -/
theorem eq_zero_of_head?_natText {n : Nat} (h : (natText n).head? = some '0') : n = 0 := by
  induction n using Nat.strongRecOn with
  | _ n ih =>
    have hdigits : natText n =
        if n < 10 then [n.digitChar] else natText (n / 10) ++ [(n % 10).digitChar] :=
      Nat.toDigits_eq_if (by decide)
    by_cases hsmall : n < 10
    · have hchars : ∀ n < 10, some n.digitChar = some '0' → n = 0 := by decide
      rw [hdigits, if_pos hsmall] at h
      exact hchars n hsmall h
    · -- a longer numeral starts as that of the tenth of its number
      obtain ⟨c, tail, hc⟩ := List.exists_cons_of_ne_nil (Text.natText_ne_nil (n / 10))
      rw [hdigits, if_neg hsmall, hc] at h
      have hzero := ih (n / 10) (by omega) (by rw [hc]; exact h)
      omega

/-- The characters that a number starts with. -/
def numberStarts : List Char := ['-', '0', '1', '2', '3', '4', '5', '6', '7', '8', '9']

theorem exists_cons_natText (n : Nat) :
    ∃ c tail, natText n = c :: tail ∧ isDigit c = true := by
  obtain ⟨c, tail, hc⟩ := List.exists_cons_of_ne_nil (Text.natText_ne_nil n)
  exact ⟨c, tail, hc, Text.isDigit_of_mem_natText (by rw [hc]; exact List.mem_cons_self)⟩

theorem exists_cons_intText (i : Int) :
    ∃ c tail, Text.intText i = c :: tail ∧ c ∈ numberStarts := by
  unfold Text.intText
  split
  · exact ⟨_, _, rfl, List.mem_cons_self⟩
  · obtain ⟨c, tail, hc, hdigit⟩ := exists_cons_natText i.natAbs
    have hcodes : ∀ n ∈ Text.digitCodes, Char.ofNat n ∈ numberStarts := by decide
    have hmem := hcodes _ (Text.mem_digitCodes hdigit)
    rw [Char.ofNat_toNat] at hmem
    exact ⟨c, tail, hc, hmem⟩

/-- Digits are taken one after the other as long as they fit 64 bits. -/
theorem takeWhole_eq {n : Nat} {digits : List Char} (hroom : digitsFrom n digits < twoPow 64) :
    takeWhole n digits = ⟨digitsFrom n digits, 0⟩ := by
  induction digits generalizing n with
  | nil => rfl
  | cons c digits ih =>
    have hnext : n * 10 + Text.digitValue c = 10 * n + Text.digitValue c := by rw [Nat.mul_comm]
    have hfits : 10 * n + Text.digitValue c < twoPow 64 :=
      Nat.lt_of_le_of_lt (Text.le_digitsFrom _ digits) hroom
    rw [takeWhole, hnext, if_pos hfits]
    exact ih hroom

/-- Whether what follows a number cannot go on with it. -/
def EndsNumber (rest : List Char) : Prop :=
  ∀ c ∈ rest.head?, isDigit c = false ∧ c ≠ '.' ∧ c ≠ 'e' ∧ c ≠ 'E'

theorem EndsNumber.cons {c : Char} {rest : List Char}
    (h : isDigit c = false ∧ c ≠ '.' ∧ c ≠ 'e' ∧ c ≠ 'E') : EndsNumber (c :: rest) := by
  intro x hx
  cases hx
  exact h

/-- A numeral is read back after its sign, if there is an integer for it. -/
theorem readUnsigned_natText {negative : Bool} {n : Nat} {i : Int} (hroom : n < twoPow 64)
    (hinteger : integerOf? negative ⟨n, 0⟩ = some i) {rest : List Char} (hrest : EndsNumber rest) :
    readUnsigned negative (natText n ++ rest) = some (.integer i, rest) := by
  have hstop : rest.head?.all (fun x => !isDigit x) = true := by
    rw [Option.all_eq_true]
    intro c hc
    rw [(hrest c hc).1]
    rfl
  obtain ⟨htake, hdrop⟩ : (natText n ++ rest).takeWhile isDigit = natText n ∧
      (natText n ++ rest).dropWhile isDigit = rest :=
    Text.takeWhile_append_stop (fun c hc => Text.isDigit_of_mem_natText hc) hstop
  have hnonempty : (natText n).isEmpty = false := by
    rw [List.isEmpty_eq_false_iff]
    exact Text.natText_ne_nil n
  have hzero : ((natText n).head? == some '0' && (natText n).length != 1) = false := by
    rw [Bool.and_eq_false_imp]
    intro hhead
    have hn : n = 0 := eq_zero_of_head?_natText (by simpa using hhead)
    subst hn
    rfl
  have hdigits : takeWhole 0 (natText n) = ⟨n, 0⟩ := by
    have hvalue : digitsFrom 0 (natText n) = n := Text.digitsValue_natText n
    rw [takeWhole_eq (by rwa [hvalue]), hvalue]
  unfold readUnsigned
  simp only [htake, hdrop, hnonempty, hzero, hdigits, Bool.or_self, Bool.false_eq_true, if_false]
  cases rest with
  | nil => simp [hinteger]
  | cons c tail =>
    obtain ⟨-, hpoint, he, hE⟩ := hrest c rfl
    split
    · rename_i heq
      exact absurd (List.cons.inj heq).1 hpoint
    · simp [he, hE, hinteger]

/-- An integer is read back from its numeral. -/
theorem readNumber_intText {i : Int} (h : JsonNumber.isInteger (.integer i) = true)
    {rest : List Char} (hrest : EndsNumber rest) :
    readNumber (Text.intText i ++ rest) = some (.integer i, rest) := by
  obtain ⟨hleast, hless⟩ : int64Least ≤ i ∧ i < twoPow 64 := by
    simpa [JsonNumber.isInteger] using h
  have hlimits : twoPow 64 = 18446744073709551616 ∧ twoPow 63 = 9223372036854775808 := ⟨rfl, rfl⟩
  rw [hlimits.1] at hless
  unfold int64Least at hleast
  unfold Text.intText
  split
  · have hinteger : integerOf? true ⟨i.natAbs, 0⟩ = some i := by
      have hrange : 0 < i.natAbs ∧ i.natAbs ≤ twoPow 63 := by omega
      have hvalue : -(i.natAbs : Int) = i := by omega
      show (if 0 < i.natAbs ∧ i.natAbs ≤ twoPow 63 then some (-(i.natAbs : Int)) else none) = some i
      rw [if_pos hrange, hvalue]
    exact readUnsigned_natText (by omega) hinteger hrest
  · have hinteger : integerOf? false ⟨i.natAbs, 0⟩ = some i := by
      have hvalue : (i.natAbs : Int) = i := by omega
      show some (i.natAbs : Int) = some i
      rw [hvalue]
    have hread := readUnsigned_natText (by omega) hinteger hrest
    obtain ⟨c, tail, hc, hdigit⟩ := exists_cons_natText i.natAbs
    have hminus : c ≠ '-' := by
      rintro rfl
      cases hdigit
    rw [hc] at hread ⊢
    unfold readNumber
    split
    · rename_i heq
      exact absurd (List.cons.inj heq).1 hminus
    · exact hread

end DynamicSql.Json

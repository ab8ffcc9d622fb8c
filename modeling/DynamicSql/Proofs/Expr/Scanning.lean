import DynamicSql.Expr.Dotted
import DynamicSql.Proofs.Expr.Streams
import DynamicSql.Proofs.Text.Characters

/-!
# Words and numerals among tokens

What the lexer makes of a character that starts a word or a numeral, and how the
tokens of a text are put together from those of its parts, with blanks between them or
without.
-/

namespace DynamicSql

/-! ## Names -/

theorem exists_cons_of_isName {name : String} (h : isName name = true) :
    ∃ c tail, name.toList = c :: tail := by
  unfold isName at h
  split at h
  · cases h
  · rename_i c tail hchars
    exact ⟨c, tail, hchars⟩

theorem isName_iff {name : String} {c : Char} {tail : List Char} (h : name.toList = c :: tail) :
    isName name = true ↔ Text.isIdentifierStart c = true ∧
      (∀ x ∈ tail, Text.isIdentifierContinue x = true) ∧ name ∉ keywords := by
  unfold isName
  simp only [h, Bool.and_eq_true, List.all_eq_true, Bool.not_eq_true', List.contains_eq_mem,
    decide_eq_false_iff_not, and_assoc]

/-- A character that neither starts nor continues identifiers is in no name. -/
theorem ne_of_mem_name {name : String} (h : isName name = true) {c : Char}
    (hc : c ∈ name.toList) (sign : Char) (hstart : Text.isIdentifierStart sign = false)
    (hcontinue : Text.isIdentifierContinue sign = false) : c ≠ sign := by
  rintro rfl
  obtain ⟨first, tail, hchars⟩ := exists_cons_of_isName h
  obtain ⟨hfirst, htail, -⟩ := (isName_iff hchars).1 h
  rw [hchars, List.mem_cons] at hc
  rcases hc with rfl | hc
  · rw [hstart] at hfirst
    cases hfirst
  · rw [htail c hc] at hcontinue
    cases hcontinue

/-! ## Single tokens -/

namespace Lexer

open Text

variable {c : Char} {tail rest : List Char}

/-- The characters that are tokens, or start one, by themselves. -/
def signs : List Char :=
  ['+', '-', '*', '/', '%', '.', '(', ')', '[', ']', '=', '!', '<', '>', '&', '|', '\'', '"']

/-- What is no sign is a digit, or starts a word, or is nothing. -/
theorem readToken_of_not_mem_signs (h : c ∉ signs) (rest : List Char) :
    readToken c rest =
      if isDigit c then readNumber (c :: rest)
      else if isIdentifierStart c then
        .ok (word (c :: rest.takeWhile isIdentifierContinue), rest.dropWhile isIdentifierContinue)
      else .error (.unexpectedCharacter c) := by
  simp only [signs, List.mem_cons, List.not_mem_nil, not_or, or_false] at h
  simp [readToken, h]

/-- What starts as an identifier is read as a word. -/
theorem readToken_word (hstart : isIdentifierStart c = true)
    (htail : ∀ x ∈ tail, isIdentifierContinue x = true)
    (hrest : rest.head?.all (fun x => !isIdentifierContinue x) = true) :
    readToken c (tail ++ rest) = .ok (word (c :: tail), rest) := by
  have hsigns : signs.all (fun x => !isIdentifierStart x) = true := by decide
  have hc : c ∉ signs := by
    intro hmem
    simpa [hstart] using List.all_eq_true.1 hsigns c hmem
  obtain ⟨htake, hdrop⟩ := takeWhile_append_stop htail hrest
  rw [readToken_of_not_mem_signs hc, isDigit_of_isIdentifierStart hstart, hstart, htake, hdrop]
  rfl

/-- A name is read as the token of an identifier. -/
theorem readToken_name {name : String} (hname : isName name = true)
    (hchars : name.toList = c :: tail)
    (hrest : rest.head?.all (fun x => !isIdentifierContinue x) = true) :
    readToken c (tail ++ rest) = .ok (.identifier name, rest) := by
  obtain ⟨hstart, htail, hkeyword⟩ := (isName_iff hchars).1 hname
  have hword : word (c :: tail) = .identifier name := by
    have htext : String.ofList (c :: tail) = name := by rw [← hchars, String.ofList_toList]
    simp only [keywords, List.mem_cons, List.not_mem_nil, or_false, not_or] at hkeyword
    simp [word, htext, hkeyword]
  rw [readToken_word hstart htail hrest, hword]

/-- What starts with a digit is read as a number. -/
theorem readToken_of_isDigit (h : isDigit c = true) (rest : List Char) :
    readToken c rest = readNumber (c :: rest) := by
  have hsigns : signs.all (fun x => !isDigit x) = true := by decide
  have hc : c ∉ signs := by
    intro hmem
    simpa [h] using List.all_eq_true.1 hsigns c hmem
  rw [readToken_of_not_mem_signs hc, if_pos h]

/-- Digits are read as the integer that they stand for, if it is in range, unless more digits
follow, or a point and digits. -/
theorem readToken_digits (hdigits : ∀ x ∈ c :: tail, isDigit x = true)
    (hrest : rest.head?.all (fun x => !isDigit x) = true)
    (hpoint : ∀ d more, rest = '.' :: d :: more → isDigit d = false) :
    readToken c (tail ++ rest) =
      match int64? (digitsValue (c :: tail)) with
      | some i => .ok (.integer i, rest)
      | none => .error (.integerOutOfRange (String.ofList (c :: tail))) := by
  obtain ⟨htake, hdrop⟩ := takeWhile_append_stop hdigits hrest
  rw [readToken_of_isDigit (hdigits c List.mem_cons_self), ← List.cons_append]
  simp only [readNumber, htake, hdrop]
  split
  · rename_i d more
    rw [hpoint d more rfl]
    rfl
  · rfl

/-- The numeral of an integer is read as its token, unless more digits follow, or a point and
digits. -/
theorem readToken_natText {n : Nat} (hn : (n : Int) ≤ int64Greatest)
    (hchars : natText n = c :: tail) (hrest : rest.head?.all (fun x => !isDigit x) = true)
    (hpoint : ∀ d more, rest = '.' :: d :: more → isDigit d = false) :
    readToken c (tail ++ rest) = .ok (.integer (Int64.ofInt n), rest) := by
  have hdigits : ∀ x ∈ c :: tail, isDigit x = true := by
    intro x hx
    rw [← hchars] at hx
    exact isDigit_of_mem_natText hx
  have hleast : int64Least ≤ (n : Int) := by
    unfold int64Least
    omega
  have hvalue : int64? ((digitsValue (c :: tail) : Nat) : Int) = some (Int64.ofInt n) := by
    rw [← hchars, digitsValue_natText, int64?, if_pos ⟨hleast, hn⟩]
  rw [readToken_digits hdigits hrest hpoint, hvalue]

/-- Digits around a point are read as the token of a decimal, up to the first character that
is no digit. -/
theorem readToken_point {d : Char} {more : List Char} (hwhole : ∀ x ∈ c :: tail, isDigit x = true)
    (hplaces : ∀ x ∈ d :: more, isDigit x = true)
    (hrest : rest.head?.all (fun x => !isDigit x) = true) :
    readToken c (tail ++ '.' :: d :: (more ++ rest)) =
      .ok (.decimal (String.ofList (c :: tail ++ '.' :: d :: more)), rest) := by
  have hpoint : ('.' :: d :: (more ++ rest)).head?.all (fun x => !isDigit x) = true := rfl
  obtain ⟨htake, hdrop⟩ := takeWhile_append_stop hwhole hpoint
  have htake' : (d :: (more ++ rest)).takeWhile isDigit = d :: more :=
    (takeWhile_append_stop hplaces hrest).1
  have hdrop' : (d :: (more ++ rest)).dropWhile isDigit = rest :=
    (takeWhile_append_stop hplaces hrest).2
  have hd : isDigit d = true := hplaces d List.mem_cons_self
  rw [readToken_of_isDigit (hwhole c List.mem_cons_self), ← List.cons_append]
  simp only [readNumber, htake, hdrop, hd, htake', hdrop', if_true]

end Lexer

/-! ## Texts -/

/-- How a text is cut into tokens, with blanks between them. -/
inductive Lexes : List Char → List Token → Prop
  | done : Lexes [] []
  | blank {c : Char} {cs : List Char} {tokens : List Token} (hblank : Text.isBlank c = true)
      (h : Lexes cs tokens) : Lexes (c :: cs) tokens
  | token {c : Char} {taken rest : List Char} {token : Token} {tokens : List Token}
      (hblank : Text.isBlank c = false)
      (hread : Lexer.readToken c (taken ++ rest) = .ok (token, rest))
      (h : Lexes rest tokens) : Lexes (c :: (taken ++ rest)) (token :: tokens)

namespace Lexes

variable {cs gap : List Char} {tokens : List Token}

/-- Blanks before a text are skipped. -/
theorem blanks (hgap : ∀ c ∈ gap, Text.isBlank c = true) (h : Lexes cs tokens) :
    Lexes (gap ++ cs) tokens := by
  induction gap with
  | nil => exact h
  | cons c gap ih =>
    have hc : Text.isBlank c = true := hgap c List.mem_cons_self
    exact .blank hc (ih fun c hc => hgap c (List.mem_cons_of_mem _ hc))

theorem length_le (h : Lexes cs tokens) : tokens.length ≤ cs.length := by
  induction h with
  | done => exact Nat.le_refl 0
  | blank _ _ ih => exact Nat.le_succ_of_le ih
  | token _ _ _ ih =>
    simp only [List.length_cons, List.length_append]
    omega

/-- With enough fuel the stream of a text has the tokens that the text is cut into. -/
theorem reads (h : Lexes cs tokens) (total : Nat) {fuel : Nat} (hfuel : tokens.length < fuel) :
    TokenStream.Reads (.ofChars total fuel cs) tokens (.done total) := by
  induction h generalizing fuel with
  | done =>
    cases fuel with
    | zero => exact absurd hfuel (Nat.not_lt_zero _)
    | succ fuel => exact .nil _
  | @blank c cs tokens hblank _ ih =>
    cases fuel with
    | zero => exact absurd hfuel (Nat.not_lt_zero _)
    | succ fuel =>
      have hdrop : (c :: cs).dropWhile Text.isBlank = cs.dropWhile Text.isBlank := by
        simp [List.dropWhile, hblank]
      have hrest := ih hfuel
      rw [TokenStream.ofChars] at hrest ⊢
      rwa [hdrop]
  | @token c taken rest token tokens hblank hread _ ih =>
    cases fuel with
    | zero => exact absurd hfuel (Nat.not_lt_zero _)
    | succ fuel =>
      have hdrop : (c :: (taken ++ rest)).dropWhile Text.isBlank = c :: (taken ++ rest) := by
        simp [List.dropWhile, hblank]
      rw [TokenStream.ofChars, hdrop]
      simp only [hread]
      exact .cons (ih (Nat.lt_of_succ_lt_succ hfuel))

theorem all_ofText {text : String} (h : Lexes text.toList tokens) :
    (TokenStream.ofText text).all = .ok tokens :=
  TokenStream.all_of_reads (h.reads _ (Nat.lt_succ_of_le h.length_le))

end Lexes

/-- How a text without blanks is cut into tokens. -/
inductive Scans : List Char → List Token → Prop
  | done : Scans [] []
  | token {c : Char} {taken rest : List Char} {token : Token} {tokens : List Token}
      (hblank : Text.isBlank c = false)
      (hread : Lexer.readToken c (taken ++ rest) = .ok (token, rest))
      (h : Scans rest tokens) : Scans (c :: (taken ++ rest)) (token :: tokens)

namespace Scans

variable {cs : List Char} {tokens : List Token}

/-- A character that is a token by itself. -/
theorem sign {c : Char} {token : Token} (hblank : Text.isBlank c = false)
    (hread : Lexer.readToken c cs = .ok (token, cs)) (h : Scans cs tokens) :
    Scans (c :: cs) (token :: tokens) :=
  @Scans.token c [] cs token tokens hblank hread h

theorem lexes (h : Scans cs tokens) : Lexes cs tokens := by
  induction h with
  | done => exact .done
  | token hblank hread _ ih => exact .token hblank hread ih

theorem all_ofText {text : String} (h : Scans text.toList tokens) :
    (TokenStream.ofText text).all = .ok tokens :=
  h.lexes.all_ofText

end Scans

end DynamicSql

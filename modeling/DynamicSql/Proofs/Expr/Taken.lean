import DynamicSql.Proofs.Expr.Scanning

/-!
# What a token takes of a text

A token is read from the first characters of a text, and what it leaves is the rest.  The
characters that it takes are read as the same token wherever they stand before a blank or at the
end of a text, although the token may have been told apart by the character behind it: there is
one lemma for every way to scan a token, and `readToken_takes` puts them together.
-/

namespace DynamicSql

namespace Lexer

open Text

variable {c : Char} {cs rest : List Char} {token : Token}

/-- The token that starts with a character takes some more characters and leaves the rest, and it
takes the same before a blank or at the end of a text. -/
def Takes (c : Char) (cs : List Char) (token : Token) (rest : List Char) : Prop :=
  ∃ taken, cs = taken ++ rest ∧
    ∀ more, more.head?.all isBlank = true → readToken c (taken ++ more) = .ok (token, more)

/-! ## Signs -/

/-- A sign that is a token by itself. -/
theorem takes_sign {sign : Token} (hread : ∀ cs, readToken c cs = .ok (sign, cs))
    (h : readToken c cs = .ok (token, rest)) : Takes c cs token rest := by
  rw [hread] at h
  cases h
  exact ⟨[], rfl, fun more _ => hread more⟩

/-- Before a blank, or at the end, a sign stands by itself. -/
theorem follow_of_blank {more : List Char} (hmore : more.head?.all isBlank = true)
    (matched otherwise : Token) : follow '=' matched otherwise more = (otherwise, more) := by
  cases more with
  | nil => rfl
  | cons d more =>
    have hd : d ≠ '=' := by
      rintro rfl
      cases hmore
    rw [follow, if_neg hd]

/-- A sign that goes on with an equality sign. -/
theorem takes_follow {matched otherwise : Token}
    (hread : ∀ cs, readToken c cs = .ok (follow '=' matched otherwise cs))
    (h : readToken c cs = .ok (token, rest)) : Takes c cs token rest := by
  have halone : ∀ more, more.head?.all isBlank = true →
      readToken c more = .ok (otherwise, more) := fun more hmore => by
    rw [hread, follow_of_blank hmore]
  rw [hread] at h
  cases cs with
  | nil =>
    cases h
    exact ⟨[], rfl, halone⟩
  | cons d cs =>
    by_cases hd : d = '='
    · subst hd
      cases h
      exact ⟨['='], rfl, fun more _ => hread ('=' :: more)⟩
    · rw [follow, if_neg hd] at h
      cases h
      exact ⟨[], rfl, halone⟩

/-- A sign that is a token only where it is written twice. -/
theorem takes_doubled (sign : Token)
    (hread : ∀ cs, readToken c cs =
      if cs.head? == some c then .ok (sign, cs.tail) else .error (.unexpectedCharacter c))
    (h : readToken c cs = .ok (token, rest)) : Takes c cs token rest := by
  rw [hread] at h
  split at h
  · rename_i hhead
    obtain ⟨tail, rfl⟩ := List.head?_eq_some_iff.1 (eq_of_beq hhead)
    cases h
    refine ⟨[c], rfl, fun more _ => ?_⟩
    rw [hread, List.singleton_append, List.head?_cons, if_pos (beq_self_eq_true _), List.tail_cons]
  · cases h

/-! ## Strings -/

theorem readLiteral_cons (hc : c ≠ '\\') (quote : Char) (cs : List Char) :
    readLiteral quote (c :: cs) =
      if c = quote then some ([], cs)
      else (readLiteral quote cs).map fun (s, rest) => (c :: s, rest) := by
  rw [readLiteral]
  · exact fun heq _ => hc heq
  · exact fun _ _ heq _ => hc heq

/-- What is neither a last backslash nor one before another character is no backslash. -/
theorem ne_backslash (hend : c = '\\' → cs = [] → False)
    (hpair : ∀ d more, c = '\\' → cs = d :: more → False) : c ≠ '\\' := by
  rintro rfl
  cases cs with
  | nil => exact hend rfl rfl
  | cons d more => exact hpair d more rfl rfl

/-- A string is read up to its closing quote, whatever follows. -/
theorem readLiteral_taken {quote : Char} {s : List Char}
    (h : readLiteral quote cs = some (s, rest)) :
    ∃ taken, cs = taken ++ rest ∧
      ∀ more, readLiteral quote (taken ++ more) = some (s, more) := by
  fun_induction readLiteral quote cs generalizing s with
  | case1 | case2 => cases h
  | case3 c cs ih =>
    obtain ⟨⟨s, rest⟩, hread, hresult⟩ := Option.map_eq_some_iff.1 h
    cases hresult
    obtain ⟨taken, rfl, htaken⟩ := ih hread
    refine ⟨'\\' :: c :: taken, rfl, fun more => ?_⟩
    rw [List.cons_append, List.cons_append, readLiteral, htaken]
    rfl
  | case4 cs hend hpair =>
    cases h
    refine ⟨[quote], rfl, fun more => ?_⟩
    rw [List.singleton_append, readLiteral_cons (ne_backslash hend hpair), if_pos rfl]
  | case5 c cs hend hpair hquote ih =>
    obtain ⟨⟨s, rest⟩, hread, hresult⟩ := Option.map_eq_some_iff.1 h
    cases hresult
    obtain ⟨taken, rfl, htaken⟩ := ih hread
    refine ⟨c :: taken, rfl, fun more => ?_⟩
    rw [List.cons_append, readLiteral_cons (ne_backslash hend hpair), if_neg hquote, htaken]
    rfl

theorem takes_literal (hread : ∀ cs, readToken c cs =
      match readLiteral c cs with
      | some (s, rest) => .ok (.string (String.ofList s), rest)
      | none => .error .unterminatedString)
    (h : readToken c cs = .ok (token, rest)) : Takes c cs token rest := by
  rw [hread] at h
  cases hliteral : readLiteral c cs with
  | none =>
    rw [hliteral] at h
    cases h
  | some result =>
    rw [hliteral] at h
    cases h
    obtain ⟨taken, hcs, htaken⟩ := readLiteral_taken hliteral
    refine ⟨taken, hcs, fun more _ => ?_⟩
    rw [hread, htaken]

/-! ## Words and numerals -/

/-- What is taken up to a blank ends there. -/
theorem head?_all_of_blank {p : Char → Bool} (hblank : ∀ c, isBlank c = true → p c = false)
    {more : List Char} (hmore : more.head?.all isBlank = true) :
    more.head?.all (fun c => !p c) = true := by
  cases more with
  | nil => rfl
  | cons c more =>
    have hc : p c = false := hblank c hmore
    simp [hc]

theorem takes_word (hstart : isIdentifierStart c = true)
    (h : readToken c cs = .ok (token, rest)) : Takes c cs token rest := by
  obtain ⟨tail, after, rfl, htail, hafter⟩ := exists_stop isIdentifierContinue cs
  rw [readToken_word hstart htail hafter] at h
  cases h
  exact ⟨tail, rfl, fun more hmore => readToken_word hstart htail
    (head?_all_of_blank (fun _ => isIdentifierContinue_of_isBlank) hmore)⟩

/-- A numeral takes its digits, and a point only with digits behind it. -/
theorem takes_number (hc : isDigit c = true) (h : readToken c cs = .ok (token, rest)) :
    Takes c cs token rest := by
  obtain ⟨tail, after, rfl, htail, hafter⟩ := exists_stop isDigit cs
  have hdigits : ∀ x ∈ c :: tail, isDigit x = true := List.forall_mem_cons.2 ⟨hc, htail⟩
  have hblank : ∀ more : List Char, more.head?.all isBlank = true →
      more.head?.all (fun x => !isDigit x) = true := fun more =>
    head?_all_of_blank fun _ => isDigit_of_isBlank
  by_cases hpoint : ∃ d more, after = '.' :: d :: more ∧ isDigit d = true
  · obtain ⟨d, more, rfl, hd⟩ := hpoint
    obtain ⟨places, after, rfl, hmore, hafter'⟩ := exists_stop isDigit more
    have hplaces : ∀ x ∈ d :: places, isDigit x = true := List.forall_mem_cons.2 ⟨hd, hmore⟩
    rw [readToken_point hdigits hplaces hafter'] at h
    cases h
    refine ⟨tail ++ '.' :: d :: places, by simp, fun more hmore => ?_⟩
    rw [List.append_assoc, List.cons_append, List.cons_append]
    exact readToken_point hdigits hplaces (hblank more hmore)
  · have hapart : ∀ d more, after = '.' :: d :: more → isDigit d = false := by
      intro d more heq
      simpa using fun hd => hpoint ⟨d, more, heq, hd⟩
    rw [readToken_digits hdigits hafter hapart] at h
    cases hvalue : int64? (digitsValue (c :: tail)) with
    | none =>
      rw [hvalue] at h
      cases h
    | some i =>
      rw [hvalue] at h
      cases h
      refine ⟨tail, rfl, fun more hmore => ?_⟩
      rw [readToken_digits hdigits (hblank more hmore), hvalue]
      rintro d more' rfl
      cases hmore

/-! ## All tokens -/

/-- **Every token takes the same before a blank or at the end of a text.** -/
theorem readToken_takes (h : readToken c cs = .ok (token, rest)) : Takes c cs token rest := by
  by_cases hc : c ∈ signs
  · simp only [signs, List.mem_cons, List.not_mem_nil, or_false] at hc
    rcases hc with rfl | rfl | rfl | rfl | rfl | rfl | rfl | rfl | rfl | rfl | rfl | rfl | rfl |
      rfl | rfl | rfl | rfl | rfl
    -- the signs that are tokens by themselves
    iterate 10 exact takes_sign (fun _ => rfl) h
    -- those that go on with an equality sign
    iterate 4 exact takes_follow (fun _ => rfl) h
    -- those that are written twice, and the quotes
    · exact takes_doubled .and (fun _ => rfl) h
    · exact takes_doubled .or (fun _ => rfl) h
    iterate 2 exact takes_literal (fun _ => rfl) h
  · have hsigns := readToken_of_not_mem_signs hc cs
    by_cases hdigit : isDigit c = true
    · exact takes_number hdigit h
    · by_cases hstart : isIdentifierStart c = true
      · exact takes_word hstart h
      · rw [hsigns, if_neg hdigit, if_neg hstart] at h
        cases h

end Lexer

end DynamicSql

import DynamicSql.Expr.Writing
import DynamicSql.Proofs.Decimal.Text
import DynamicSql.Proofs.Expr.Neighbours
import DynamicSql.Proofs.Expr.Scanning

/-!
# Tokens are read back from their spelling

A token that is spelled out is read back if what follows does not belong to it: a word must
not go on, a numeral must not be followed by digits or by a point and digits, and signs such
as `<` must not be followed by an equality sign (`Token.EndsBefore`).  In a sentence a token
that can end an operand is never followed by one that can only start another, and that
keeps all of them apart, in every layout: `Layout.lexes_chars`.
-/

namespace DynamicSql

open Text (isBlank isDigit isIdentifierStart isIdentifierContinue)

/-! ## Strings -/

namespace Lexer

/-- An escaped text is read back up to the closing quote. -/
theorem readLiteral_escape {quote : Char} (hquote : quote = '\'' ∨ quote = '"')
    (cs rest : List Char) :
    readLiteral quote (escape quote cs ++ quote :: rest) = some (cs, rest) := by
  have hbackslash : quote ≠ '\\' := by
    rcases hquote with rfl | rfl <;> decide
  induction cs with
  | nil => simp [escape, readLiteral, hbackslash]
  | cons c cs ih =>
    rw [escape, List.flatMap_cons, ← escape]
    by_cases hc : c = '\\' ∨ c = quote
    · have hunescape : unescape c = c := by
        rcases hquote with rfl | rfl <;> rcases hc with rfl | rfl <;> decide
      rw [if_pos hc]
      simp only [List.cons_append, List.nil_append, readLiteral, ih, Option.map_some, hunescape]
    · rw [if_neg hc]
      rw [not_or] at hc
      simp [readLiteral, hc.1, hc.2, ih]

end Lexer

/-! ## Single tokens -/

namespace Token

/-- Whether a token is one of the language: its number is not negative, its decimal has
digits on both sides of the point, its identifier is a name. -/
def IsSpellable : Token → Prop
  | integer i => 0 ≤ i.toInt
  | decimal text => ∃ whole places : List Char, (∀ c ∈ whole ++ places, isDigit c = true) ∧
      whole ≠ [] ∧ places ≠ [] ∧ text.toList = whole ++ '.' :: places
  | identifier name => isName name = true
  | _ => True

/-- Whether a token ends where the given characters follow its own. -/
def EndsBefore : Token → List Char → Prop
  | integer _, rest => rest.head?.all (fun c => !isDigit c) = true ∧
      ∀ c more, rest = '.' :: c :: more → isDigit c = false
  | decimal _, rest => rest.head?.all (fun c => !isDigit c) = true
  | identifier _, rest | boolean _, rest | null, rest =>
      rest.head?.all (fun c => !isIdentifierContinue c) = true
  | assign, rest | not, rest | less, rest | greater, rest =>
      rest.head?.all (fun c => c != '=') = true
  | _, _ => True

/-- A token is read back from its spelling in front of the given characters. -/
inductive ReadsBack (token : Token) (quote : Char) (rest : List Char) : Prop
  | intro {c : Char} {tail : List Char} (hspelling : token.spelling quote = c :: tail)
    (hblank : isBlank c = false)
    (hread : Lexer.readToken c (tail ++ rest) = .ok (token, rest)) : ReadsBack token quote rest

variable {token : Token} {quote : Char} {rest : List Char}

theorem spelling_integer {i : Int64} (h : (integer i).IsSpellable) :
    (integer i).spelling quote = Text.natText i.toInt.natAbs := by
  rw [spelling, Text.intText, if_neg (Int.not_lt.2 h)]

theorem readsBack_integer {i : Int64} (hspell : (integer i).IsSpellable)
    (hends : (integer i).EndsBefore rest) : ReadsBack (integer i) quote rest := by
  have hnat : ((i.toInt.natAbs : Nat) : Int) = i.toInt := Int.natAbs_of_nonneg hspell
  obtain ⟨c, tail, hchars⟩ := List.exists_cons_of_ne_nil (Text.natText_ne_nil i.toInt.natAbs)
  have hdigit : isDigit c = true :=
    Text.isDigit_of_mem_natText (hchars ▸ List.mem_cons_self)
  have hrange : ((i.toInt.natAbs : Nat) : Int) ≤ int64Greatest := by
    have := i.toInt_lt
    unfold int64Greatest
    omega
  have hread := Lexer.readToken_natText hrange hchars hends.1 hends.2
  rw [hnat, Int64.ofInt_toInt] at hread
  have hspelling : (integer i).spelling quote = c :: tail := (spelling_integer hspell).trans hchars
  exact .intro hspelling (Text.isBlank_of_isDigit hdigit) hread

theorem readsBack_decimal {text : String} (hspell : (decimal text).IsSpellable)
    (hends : (decimal text).EndsBefore rest) : ReadsBack (decimal text) quote rest := by
  obtain ⟨whole, places, hdigits, hwhole, hplaces, htext⟩ := hspell
  obtain ⟨c, tail, rfl⟩ := List.exists_cons_of_ne_nil hwhole
  obtain ⟨d, more, rfl⟩ := List.exists_cons_of_ne_nil hplaces
  have hbefore : ∀ x ∈ c :: tail, isDigit x = true := fun x hx =>
    hdigits x (List.mem_append_left _ hx)
  have hbehind : ∀ x ∈ d :: more, isDigit x = true := fun x hx =>
    hdigits x (List.mem_append_right _ hx)
  have hread := Lexer.readToken_point hbefore hbehind hends
  rw [← htext, String.ofList_toList] at hread
  have hspelling : (decimal text).spelling quote = c :: (tail ++ '.' :: d :: more) := htext
  refine .intro hspelling (Text.isBlank_of_isDigit (hbefore c List.mem_cons_self)) ?_
  rw [List.append_assoc]
  exact hread

theorem readsBack_string {s : String} (hquote : quote = '\'' ∨ quote = '"') :
    ReadsBack (string s) quote rest := by
  refine .intro rfl ?_ ?_
  · rcases hquote with rfl | rfl <;> rfl
  · rw [List.append_assoc, List.singleton_append]
    have hliteral := Lexer.readLiteral_escape hquote s.toList rest
    rcases hquote with rfl | rfl <;> simp [Lexer.readToken, hliteral]

theorem readsBack_identifier {name : String} (hspell : (identifier name).IsSpellable)
    (hends : (identifier name).EndsBefore rest) : ReadsBack (identifier name) quote rest := by
  obtain ⟨c, tail, hchars⟩ := exists_cons_of_isName hspell
  have hstart := ((isName_iff hchars).1 hspell).1
  have hread := Lexer.readToken_name hspell hchars hends
  exact .intro hchars (Text.isBlank_of_isIdentifierStart hstart) hread

/-- A keyword is read as its token. -/
theorem readsBack_keyword {c : Char} {tail : List Char} (hword : Lexer.word (c :: tail) = token)
    (hspelling : token.spelling quote = c :: tail) (hstart : isIdentifierStart c = true)
    (htail : tail.all isIdentifierContinue = true)
    (hends : rest.head?.all (fun c => !isIdentifierContinue c) = true) :
    ReadsBack token quote rest := by
  refine .intro hspelling (Text.isBlank_of_isIdentifierStart hstart) ?_
  rw [Lexer.readToken_word hstart (List.all_eq_true.1 htail) hends, hword]

/-- A sign that another one starts with is read as itself before other characters. -/
theorem follow_of_head {next : Char} {matched otherwise : Token}
    (h : rest.head?.all (fun c => c != next) = true) :
    Lexer.follow next matched otherwise rest = (otherwise, rest) := by
  cases rest with
  | nil => rfl
  | cons c rest =>
    have hc : c ≠ next := by simpa using h
    rw [Lexer.follow, if_neg hc]

/-- **A token is read back from its spelling** where it ends there. -/
theorem readsBack (hspell : token.IsSpellable) (hquote : quote = '\'' ∨ quote = '"')
    (hends : token.EndsBefore rest) : ReadsBack token quote rest := by
  cases token with
  | integer i => exact readsBack_integer hspell hends
  | decimal text => exact readsBack_decimal hspell hends
  | string s => exact readsBack_string hquote
  | identifier name => exact readsBack_identifier hspell hends
  | boolean b => cases b <;> exact readsBack_keyword rfl rfl rfl rfl hends
  | null => exact readsBack_keyword rfl rfl rfl rfl hends
  | assign | not | less | greater =>
    refine .intro rfl rfl ?_
    simp only [Lexer.readToken, List.nil_append, follow_of_head hends]
    rfl
  | _ => exact .intro rfl rfl rfl

theorem endsBefore_nil (token : Token) : token.EndsBefore [] := by
  cases token
  case integer => exact ⟨rfl, fun c more h => nomatch h⟩
  all_goals first | rfl | trivial

/-! ## First characters -/

/-- A spelling is not empty and does not start with a blank. -/
theorem exists_spelling (hspell : token.IsSpellable) (hquote : quote = '\'' ∨ quote = '"') :
    ∃ c tail, token.spelling quote = c :: tail ∧ isBlank c = false := by
  obtain ⟨hspelling, hblank, -⟩ := readsBack hspell hquote (endsBefore_nil token)
  exact ⟨_, _, hspelling, hblank⟩

variable {c : Char}

theorem head_of_identifier {name : String} (hspell : (identifier name).IsSpellable)
    (hc : c ∈ ((identifier name).spelling quote).head?) : isIdentifierStart c = true := by
  obtain ⟨first, tail, hchars⟩ := exists_cons_of_isName hspell
  rw [spelling, hchars] at hc
  obtain rfl : first = c := Option.some.inj hc
  exact ((isName_iff hchars).1 hspell).1

/-- A literal or a name starts with a digit, a letter or a quote. -/
theorem head_of_atom (hspell : token.IsSpellable) (hopens : token.opens = true)
    (hcloses : token.closes = true) (hc : c ∈ (token.spelling quote).head?) :
    isDigit c = true ∨ isIdentifierStart c = true ∨ c = quote := by
  cases token
  case integer i =>
    rw [spelling_integer hspell] at hc
    exact .inl (Text.isDigit_of_mem_natText (List.mem_of_mem_head? hc))
  case decimal text =>
    obtain ⟨whole, places, hdigits, hwhole, -, htext⟩ := hspell
    rw [spelling, htext, List.head?_append_of_ne_nil whole hwhole] at hc
    exact .inl (hdigits c (List.mem_append_left _ (List.mem_of_mem_head? hc)))
  case string s => exact .inr (.inr (Option.some.inj hc).symm)
  case identifier name => exact .inr (.inl (head_of_identifier hspell hc))
  case boolean b =>
    cases b <;> cases hc <;> exact .inr (.inl rfl)
  case null =>
    cases hc
    exact .inr (.inl rfl)
  all_goals first
    | exact absurd hopens Bool.false_ne_true
    | exact absurd hcloses Bool.false_ne_true

/-- What can stand behind an operand does not go on with a word or a numeral. -/
theorem head_of_continues (h : token.continues = true) (hc : c ∈ (token.spelling quote).head?) :
    isIdentifierContinue c = false ∧ isDigit c = false := by
  cases token
  all_goals first
    | exact absurd h Bool.false_ne_true
    | (cases hc; exact ⟨rfl, rfl⟩)

/-- No operand starts with an equality sign. -/
theorem head_of_opens (hspell : token.IsSpellable) (hquote : quote = '\'' ∨ quote = '"')
    (h : token.opens = true) (hc : c ∈ (token.spelling quote).head?) : c ≠ '=' := by
  by_cases hcloses : token.closes = true
  · rintro rfl
    rcases head_of_atom hspell h hcloses hc with hdigit | hstart | rfl
    · cases hdigit
    · cases hstart
    · rcases hquote with hquote | hquote <;> cases hquote
  · cases token
    case minus | not | leftParen =>
      cases hc
      decide
    all_goals first
      | exact absurd h Bool.false_ne_true
      | exact absurd rfl hcloses

/-- Only a dot starts with a dot. -/
theorem eq_dot_of_head (hspell : token.IsSpellable) (hquote : quote = '\'' ∨ quote = '"')
    (hc : '.' ∈ (token.spelling quote).head?) : token = .dot := by
  by_cases hatom : token.opens = true ∧ token.closes = true
  · rcases head_of_atom hspell hatom.1 hatom.2 hc with hdigit | hstart | rfl
    · cases hdigit
    · cases hstart
    · rcases hquote with hquote | hquote <;> cases hquote
  · cases token
    case dot => rfl
    all_goals first | exact absurd ⟨rfl, rfl⟩ hatom | cases hc

/-- No identifier starts with a digit. -/
theorem head_of_isIdentifier (hspell : token.IsSpellable) (h : token.isIdentifier = true)
    (hc : c ∈ (token.spelling quote).head?) : isDigit c = false := by
  cases token
  case identifier name =>
    exact Text.isDigit_of_isIdentifierStart (head_of_identifier hspell hc)
  all_goals cases h

end Token

/-! ## Texts -/

namespace Layout

variable {layout : Layout} {n : Nat} {token : Token} {tokens : List Token}

/-- What holds of blanks and of the first character of the first token holds of the first
character of a text. -/
theorem head_chars {p : Char → Bool} (hspell : ∀ token ∈ tokens, token.IsSpellable)
    (hblank : ∀ c, isBlank c = true → p c = true)
    (hfirst : ∀ next ∈ tokens.head?, ∀ c ∈ (next.spelling (layout.quote n)).head?, p c = true) :
    (layout.chars n tokens).head?.all p = true := by
  cases hgap : layout.gap n with
  | cons c gap =>
    have hc : p c = true := hblank c (layout.blank n c (hgap ▸ List.mem_cons_self))
    cases tokens <;> simpa [chars, hgap] using hc
  | nil =>
    cases tokens with
    | nil => simp [chars, hgap]
    | cons next rest =>
      obtain ⟨c, tail, hspelling, -⟩ :=
        Token.exists_spelling (hspell next List.mem_cons_self) (layout.quoted n)
      have hc : p c = true := hfirst next rfl c (by rw [hspelling]; rfl)
      simpa [chars, hgap, hspelling] using hc

/-- A text that starts with a dot starts with the token of a dot. -/
theorem chars_eq_dot {cs : List Char} (hspell : ∀ token ∈ tokens, token.IsSpellable)
    (h : layout.chars n tokens = '.' :: cs) :
    ∃ rest, tokens = .dot :: rest ∧ layout.chars (n + 1) rest = cs := by
  have hgap : layout.gap n = [] := by
    cases hgap : layout.gap n with
    | nil => rfl
    | cons c gap =>
      have hc := layout.blank n c (hgap ▸ List.mem_cons_self)
      obtain rfl : c = '.' := by
        cases tokens <;> simp only [chars, hgap, List.cons_append] at h <;>
          exact (List.cons.inj h).1
      cases hc
  cases tokens with
  | nil =>
    rw [chars, hgap] at h
    cases h
  | cons next rest =>
    obtain ⟨c, tail, hspelling, -⟩ :=
      Token.exists_spelling (hspell next List.mem_cons_self) (layout.quoted n)
    rw [chars, hgap, List.nil_append] at h
    obtain rfl : next = .dot := by
      refine Token.eq_dot_of_head (hspell next List.mem_cons_self) (layout.quoted n) ?_
      rw [hspelling, List.cons_append] at h
      rw [hspelling, (List.cons.inj h).1]
      rfl
    exact ⟨rest, rfl, (List.cons.inj h).2⟩

section Neighbours

variable (hspell : ∀ token ∈ tokens, token.IsSpellable)
  (hnext : ∀ next ∈ tokens.head?, token.precedes next = true)
include hspell hnext

/-- Behind an operand neither a word nor a numeral goes on. -/
theorem head_behind_operand {p : Char → Bool} (hcloses : token.closes = true)
    (hblank : ∀ c, isBlank c = true → p c = false)
    (hsign : ∀ c, isIdentifierContinue c = false ∧ isDigit c = false → p c = false) (n : Nat) :
    (layout.chars n tokens).head?.all (fun c => !p c) = true := by
  refine head_chars hspell (fun c hc => ?_) (fun next hmem c hc => ?_)
  · rw [hblank c hc]
    rfl
  · have hprecedes := hnext next hmem
    rw [Token.precedes, if_pos hcloses] at hprecedes
    rw [hsign c (Token.head_of_continues hprecedes hc)]
    rfl

theorem word_ends (hcloses : token.closes = true) (n : Nat) :
    (layout.chars n tokens).head?.all (fun c => !isIdentifierContinue c) = true :=
  head_behind_operand hspell hnext hcloses (fun _ => Text.isIdentifierContinue_of_isBlank)
    (fun _ h => h.1) n

theorem numeral_ends (hcloses : token.closes = true) (n : Nat) :
    (layout.chars n tokens).head?.all (fun c => !isDigit c) = true :=
  head_behind_operand hspell hnext hcloses (fun _ => Text.isDigit_of_isBlank) (fun _ h => h.2) n

/-- Behind an operator no equality sign makes it a longer one. -/
theorem sign_ends (hcloses : token.closes = false) (hdot : token ≠ .dot) (n : Nat) :
    (layout.chars n tokens).head?.all (fun c => c != '=') = true := by
  refine head_chars hspell (fun c hc => ?_) (fun next hmem c hc => ?_)
  · rw [bne_iff_ne]
    rintro rfl
    cases hc
  · have hprecedes := hnext next hmem
    rw [Token.precedes, hcloses, if_neg Bool.false_ne_true, if_neg hdot] at hprecedes
    rw [bne_iff_ne]
    exact Token.head_of_opens (hspell next (List.mem_of_mem_head? hmem)) (layout.quoted n)
      hprecedes hc

end Neighbours

/-- A name behind a dot does not start with a digit. -/
theorem no_digit_behind_dot (hspell : ∀ token ∈ tokens, token.IsSpellable)
    (hnext : ∀ next ∈ tokens.head?, Token.dot.precedes next = true) (n : Nat) :
    (layout.chars n tokens).head?.all (fun c => !isDigit c) = true := by
  refine head_chars hspell (fun c hc => ?_) (fun next hmem c hc => ?_)
  · rw [Text.isDigit_of_isBlank hc]
    rfl
  · rw [Token.head_of_isIdentifier (hspell next (List.mem_of_mem_head? hmem)) (hnext next hmem) hc]
    rfl

/-- In a chain of neighbours every token ends where the next one, or a blank, starts. -/
theorem endsBefore_chars (hspell : ∀ token ∈ tokens, token.IsSpellable)
    (hchain : (token :: tokens).IsChain fun token next => token.precedes next = true) (n : Nat) :
    token.EndsBefore (layout.chars n tokens) := by
  obtain ⟨hnext, hrest⟩ := List.isChain_cons.1 hchain
  cases token
  case integer i =>
    refine ⟨numeral_ends hspell hnext rfl n, fun c more hchars => ?_⟩
    -- a dot is followed by a name, so the numeral does not go on with a fraction
    obtain ⟨rest, rfl, hmore⟩ := chars_eq_dot hspell hchars
    have hname : (layout.chars (n + 1) rest).head?.all (fun c => !isDigit c) = true :=
      no_digit_behind_dot (fun token htoken => hspell token (List.mem_cons_of_mem _ htoken))
        (List.isChain_cons.1 hrest).1 (n + 1)
    simpa [hmore] using hname
  case decimal => exact numeral_ends hspell hnext rfl n
  case identifier | boolean | null => exact word_ends hspell hnext rfl n
  case assign | not | less | greater => exact sign_ends hspell hnext rfl (by decide) n
  all_goals trivial

/-- **Tokens that follow each other as in a sentence are read back from their text**, in every
layout. -/
theorem lexes_chars (layout : Layout) (hspell : ∀ token ∈ tokens, token.IsSpellable)
    (hchain : tokens.IsChain fun token next => token.precedes next = true) (n : Nat) :
    Lexes (layout.chars n tokens) tokens := by
  induction tokens generalizing n with
  | nil =>
    rw [chars, ← List.append_nil (layout.gap n)]
    exact .blanks (layout.blank n) .done
  | cons token tokens ih =>
    have hrest : ∀ token ∈ tokens, token.IsSpellable := fun token htoken =>
      hspell token (List.mem_cons_of_mem _ htoken)
    have hends : token.EndsBefore (layout.chars (n + 1) tokens) :=
      endsBefore_chars hrest hchain (n + 1)
    obtain ⟨hspelling, hblank, hread⟩ :=
      Token.readsBack (hspell token List.mem_cons_self) (layout.quoted n) hends
    rw [chars, hspelling]
    exact .blanks (layout.blank n)
      (.token hblank hread (ih hrest (List.isChain_cons.1 hchain).2 (n + 1)))

end Layout

end DynamicSql

import DynamicSql.Proofs.Expr.Completeness
import DynamicSql.Proofs.Expr.Soundness

/-!
# The language of the parser

The parser accepts the sentences of the grammar and no other text, and a text
that it accepts is a sentence for one statement only.
-/

namespace DynamicSql

namespace Parser

open Grammar TokenStream

variable {stream rest : TokenStream} {tokens ts : List Token} {e : Expr}
  {result statement other : Statement}

theorem expression_sound (h : expression stream = .ok (e, rest)) :
    Reading .or stream e rest :=
  ((sound _).binary h rfl (by decide)).1

theorem expression_complete (h : Derives .or ts e) (hreads : Reads stream ts rest)
    (hready : Ready rest) (hnav : EndsNavigation rest) (hends : EndsBelow 1 rest) :
    expression stream = .ok (e, rest) :=
  ChainReached.binary (reached h) (Nat.le_refl 1) hreads hready hnav hends
    (by rw [bound]; omega)

/-- The end of a text ends every chain of operators and steps. -/
theorem ends_done (position level : Nat) :
    EndsNavigation (.done position) ∧ EndsBelow level (.done position) := by
  refine ⟨⟨?_, ?_⟩, ?_⟩
  · simp [current?]
  · simp [current?]
  · intro op hop
    cases hop

theorem statement_sound (h : Parser.statement stream = .ok (result, rest)) :
    Ready rest ∧ ∃ ts, Reads stream ts rest ∧ Sentence ts result := by
  rw [Parser.statement] at h
  obtain ⟨⟨left, middle⟩, hleft, hnext⟩ := bind_eq_ok h
  obtain ⟨hready, ts, hts, hderives⟩ := expression_sound hleft
  dsimp only at hnext
  split at hnext
  · rename_i hassign
    split at hnext
    · rename_i name
      obtain ⟨after, hadvance, hvalue⟩ := bind_eq_ok hnext
      obtain ⟨⟨right, last⟩, hright, hresult⟩ := bind_eq_ok hvalue
      cases hresult
      obtain ⟨hready', us, hus, hright⟩ := expression_sound hright
      obtain ⟨lexeme, rfl, hlexeme, _⟩ := advance_eq_ok hassign hadvance
      refine ⟨hready', _, hts.append (.cons hus), ?_⟩
      rw [hlexeme]
      exact .assign hderives.named hright
    · cases hnext
  · cases hnext
    exact ⟨hready, ts, hts, .expr hderives⟩

theorem statement_complete {position : Nat} (h : Sentence tokens result)
    (hreads : Reads stream tokens (.done position)) :
    Parser.statement stream = .ok (result, .done position) := by
  obtain ⟨hnav, hends⟩ := ends_done position 1
  rw [Parser.statement]
  cases h with
  | expr h =>
    rw [expression_complete h hreads rfl hnav hends]
    rfl
  | assign hname h =>
    obtain ⟨middle, hleft, htail⟩ := reads_append hreads
    obtain ⟨⟨_, start, stop⟩, after, rfl, rfl, hright⟩ := reads_cons htail
    obtain ⟨hnav', hends'⟩ := ends_next start stop after rfl
      (by decide : Token.assign ≠ .dot) (by decide)
    rw [expression_complete (hname.derives.loosen (by decide)) hleft rfl hnav' hends']
    simp only [current?, if_true, advance_next (ready_of_reads hright rfl),
      expression_complete h hright rfl hnav hends, bind, Except.bind]

/-- The parser accepts a stream if and only if its tokens are a sentence. -/
theorem program_iff_sentence : program stream = .ok result ↔
    ∃ tokens, stream.all = .ok tokens ∧ Sentence tokens result := by
  constructor
  · intro h
    rw [program] at h
    obtain ⟨stream', hready, hnext⟩ := bind_eq_ok h
    obtain ⟨⟨parsed, rest⟩, hstatement, hlast⟩ := bind_eq_ok hnext
    obtain ⟨rfl, -⟩ := ready_of_ready hready
    obtain ⟨hrest, ts, hts, hsentence⟩ := statement_sound hstatement
    dsimp only at hlast
    split at hlast
    · rename_i hnone
      cases hlast
      obtain ⟨position, rfl⟩ := done_of_current? hrest hnone
      exact ⟨ts, all_of_reads hts, hsentence⟩
    · cases hlast
  · rintro ⟨tokens, hall, hsentence⟩
    obtain ⟨position, hreads⟩ := reads_of_all hall
    have hready : Ready stream := ready_of_reads hreads rfl
    rw [program, show ready stream = .ok stream from hready]
    simp only [statement_complete hsentence hreads, current?, bind, Except.bind]

/-- Tokens are a sentence for one statement at most. -/
theorem sentence_unique (h : Sentence tokens statement) (h' : Sentence tokens other) :
    other = statement := by
  have hall := all_ofTokens tokens
  have hparse := program_iff_sentence.2 ⟨tokens, hall, h⟩
  have hparse' := program_iff_sentence.2 ⟨tokens, hall, h'⟩
  rw [hparse] at hparse'
  exact (Except.ok.inj hparse').symm

/-- Every decimal among the tokens of a sentence is in range. -/
theorem inRange_of_sentence (h : Sentence tokens result) (text : String)
    (hmem : Token.decimal text ∈ tokens) : ∃ d, Decimal.parse text = .ok d := by
  cases h with
  | expr h => exact h.inRange hmem
  | assign hname h =>
    rcases List.mem_append.1 hmem with hmem | hmem
    · exact hname.derives.inRange hmem
    · exact h.inRange (by simpa using hmem)

end Parser

open Grammar

/-- A text is parsed to a statement if and only if it has no lexical fault, its
decimals are in range and its tokens derive the statement; and what tokens
derive is unique. -/
theorem Statement.parse_accepts_grammar :
    (∀ text statement, Statement.parse text = .ok statement ↔
      ∃ tokens, (TokenStream.ofText text).all = .ok tokens ∧
        (∀ digits, Token.decimal digits ∈ tokens → ∃ d, Decimal.parse digits = .ok d) ∧
        Sentence tokens statement) ∧
    (∀ tokens statement other,
      Sentence tokens statement → Sentence tokens other → other = statement) := by
  refine ⟨fun text statement => ?_, fun tokens statement other => Parser.sentence_unique⟩
  rw [Statement.parse, Parser.program_iff_sentence]
  constructor
  · rintro ⟨tokens, hall, hsentence⟩
    exact ⟨tokens, hall, Parser.inRange_of_sentence hsentence, hsentence⟩
  · rintro ⟨tokens, hall, -, hsentence⟩
    exact ⟨tokens, hall, hsentence⟩

/-- `(x) = a - b * 2.5` assigns a difference whose right side is the product. -/
theorem Statement.parse_accepts_grammar_difference :
    Statement.parse "(x) = a - b * 2.5" = .ok (.assign "x" (.binary .subtract (.ident "a")
      (.binary .multiply (.ident "b")
        (.literal (.decimal ⟨false, 25, 1, by decide, by decide⟩))))) := by
  refine (Statement.parse_accepts_grammar.1 _ _).2 ⟨[.leftParen, .identifier "x", .rightParen,
    .assign, .identifier "a", .minus, .identifier "b", .multiply, .decimal "2.5"], by rfl, ?_, ?_⟩
  · intro digits hmem
    obtain rfl : digits = "2.5" := by simpa using hmem
    exact ⟨_, rfl⟩
  · have ha : Derives .additive [.identifier "a"] (.ident "a") :=
      (Derives.name "a").loosen (by decide)
    have hb : Derives .multiplicative [.identifier "b"] (.ident "b") :=
      (Derives.name "b").loosen (by decide)
    have hliteral : Derives .unary [.decimal "2.5"]
        (.literal (.decimal ⟨false, 25, 1, by decide, by decide⟩)) :=
      (Derives.literal (.decimal rfl)).loosen (by decide)
    exact .assign (.group (.bare "x"))
      ((Derives.join rfl rfl ha (.join rfl rfl hb hliteral)).loosen (by decide))

end DynamicSql

import DynamicSql.Proofs.Expr.Acceptance
import DynamicSql.Proofs.Expr.Spelling

/-!
# Statements are read back from their text

The tokens that a statement is written with derive it, since every compound operand stands
in parentheses and is as good as a name there; they are tokens of the language; and so, as
the tokens of any sentence, they are read back from their text, whatever its layout:
`Statement.parse_written`.
-/

namespace DynamicSql

open Grammar

/-- A sentence of spellable tokens is parsed from its text in every layout. -/
theorem Layout.parse_text {tokens : List Token} {statement : Statement} (layout : Layout)
    (hsentence : Sentence tokens statement) (hspell : ∀ token ∈ tokens, token.IsSpellable) :
    Statement.parse (layout.text tokens) = .ok statement := by
  have hlexes : Lexes (layout.text tokens).toList tokens := by
    rw [text, String.toList_ofList]
    exact layout.lexes_chars hspell hsentence.operand_tokens.chain 0
  exact Parser.program_iff_sentence.2 ⟨tokens, hlexes.all_ofText, hsentence⟩

/-! ## Literals -/

/-- The value of a literal is denoted by one token. -/
theorem Value.exists_literalTokens {value : Value} (h : value.isLiteral = true) :
    ∃ token, value.literalTokens = [token] ∧ Denotes token value ∧ token.IsSpellable := by
  cases value with
  | null => exact ⟨.null, rfl, .null, trivial⟩
  | boolean b => exact ⟨.boolean b, rfl, .boolean b, trivial⟩
  | string s => exact ⟨.string s, rfl, .string s, trivial⟩
  | integer i =>
    have hnonneg : 0 ≤ i.toInt := of_decide_eq_true h
    exact ⟨.integer i, rfl, .integer i, hnonneg⟩
  | decimal d =>
    simp only [isLiteral, Bool.and_eq_true, Bool.not_eq_true', bne_iff_ne] at h
    exact ⟨.decimal d.text, rfl, .decimal (Decimal.parse_text_of_nonneg h.1),
      Decimal.exists_text h.1 h.2⟩
  | _ => cases h

/-! ## Expressions -/

namespace Expr

variable {e : Expr}

/-- In parentheses an expression is as good as a name. -/
theorem derives_enclose (hcompound : e.isCompound = true) (h : Derives .or e.tokens e) :
    Derives .primary (e.enclose e.tokens) e := by
  rw [enclose, if_pos hcompound]
  exact .group h

/-- The tokens of an expression derive it, and enclosed they are a primary expression. -/
theorem derives_tokens (h : e.isWritable = true) :
    Derives .or e.tokens e ∧ Derives .primary (e.enclose e.tokens) e := by
  induction e with
  | literal value =>
    obtain ⟨token, htokens, hdenotes, -⟩ := Value.exists_literalTokens h
    have hprimary : Derives .primary value.literalTokens (.literal value) := by
      rw [htokens]
      exact .literal hdenotes
    exact ⟨hprimary.loosen (by decide), hprimary⟩
  | ident name =>
    have hprimary : Derives .primary [.identifier name] (.ident name) := .name name
    exact ⟨hprimary.loosen (by decide), hprimary⟩
  | property base name ih =>
    obtain ⟨hbase, -⟩ := Bool.and_eq_true_iff.1 h
    have hwhole : Derives .or (property base name).tokens (.property base name) :=
      (Derives.property (.primary (ih hbase).2) name).loosen (by decide)
    exact ⟨hwhole, derives_enclose rfl hwhole⟩
  | index base i ih ihi =>
    obtain ⟨hbase, hi⟩ := Bool.and_eq_true_iff.1 h
    have hindex : Derives .or (i.enclose i.tokens) i := (ihi hi).2.loosen (by decide)
    have hwhole : Derives .or (index base i).tokens (.index base i) :=
      (Derives.index (.primary (ih hbase).2) hindex).loosen (by decide)
    exact ⟨hwhole, derives_enclose rfl hwhole⟩
  | unary op operand ih =>
    have hoperand : Derives .unary (operand.enclose operand.tokens) operand :=
      (ih h).2.loosen (by decide)
    have hunary : Derives .unary (unary op operand).tokens (.unary op operand) := by
      cases op with
      | negate => exact .negate hoperand
      | not => exact .not hoperand
    have hwhole : Derives .or (unary op operand).tokens (.unary op operand) :=
      hunary.loosen (by decide)
    exact ⟨hwhole, derives_enclose rfl hwhole⟩
  | binary op left right ihl ihr =>
    obtain ⟨hl, hr⟩ := Bool.and_eq_true_iff.1 h
    have hop : op.token.binaryOp? = some op := by cases op <;> rfl
    obtain ⟨c, d, hoperator, hoperand, -⟩ := Category.exists_operator? hop
    have hleft : Derives c (left.enclose left.tokens) left :=
      (ihl hl).2.loosen (by cases c <;> decide)
    have hright : Derives d (right.enclose right.tokens) right :=
      (ihr hr).2.loosen (by cases d <;> decide)
    have hwhole : Derives .or (binary op left right).tokens (.binary op left right) :=
      (Derives.join hoperand hoperator hleft hright).loosen (by cases c <;> decide)
    exact ⟨hwhole, derives_enclose rfl hwhole⟩

theorem spellable_enclose {tokens : List Token} (h : ∀ token ∈ tokens, token.IsSpellable)
    (operand : Expr) : ∀ token ∈ operand.enclose tokens, token.IsSpellable := by
  intro token htoken
  rw [enclose] at htoken
  split at htoken
  · simp only [List.mem_cons, List.mem_append, List.not_mem_nil, or_false] at htoken
    rcases htoken with rfl | htoken | rfl
    · trivial
    · exact h token htoken
    · trivial
  · exact h token htoken

/-- The tokens of an expression that can be written are tokens of the language. -/
theorem spellable_tokens (h : e.isWritable = true) : ∀ token ∈ e.tokens, token.IsSpellable := by
  induction e with
  | literal value =>
    obtain ⟨token, htokens, -, hspell⟩ := Value.exists_literalTokens h
    rw [tokens, htokens]
    exact fun other hother => List.mem_singleton.1 hother ▸ hspell
  | ident name => exact fun other hother => List.mem_singleton.1 hother ▸ h
  | property base name ih =>
    obtain ⟨hbase, hname⟩ := Bool.and_eq_true_iff.1 h
    intro token htoken
    simp only [tokens, List.mem_append, List.mem_cons, List.not_mem_nil, or_false] at htoken
    rcases htoken with htoken | rfl | rfl
    · exact spellable_enclose (ih hbase) base token htoken
    · trivial
    · exact hname
  | index base i ih ihi =>
    obtain ⟨hbase, hi⟩ := Bool.and_eq_true_iff.1 h
    intro token htoken
    simp only [tokens, List.mem_append, List.mem_cons, List.not_mem_nil, or_false] at htoken
    rcases htoken with htoken | rfl | htoken | rfl
    · exact spellable_enclose (ih hbase) base token htoken
    · trivial
    · exact spellable_enclose (ihi hi) i token htoken
    · trivial
  | unary op operand ih =>
    intro token htoken
    rcases List.mem_cons.1 htoken with rfl | htoken
    · cases op <;> trivial
    · exact spellable_enclose (ih h) operand token htoken
  | binary op left right ihl ihr =>
    obtain ⟨hl, hr⟩ := Bool.and_eq_true_iff.1 h
    intro token htoken
    rcases List.mem_append.1 htoken with htoken | htoken
    · exact spellable_enclose (ihl hl) left token htoken
    · rcases List.mem_cons.1 htoken with rfl | htoken
      · cases op <;> trivial
      · exact spellable_enclose (ihr hr) right token htoken

end Expr

/-! ## Statements -/

namespace Statement

variable {statement : Statement}

/-- The tokens of a statement that can be written are a sentence. -/
theorem sentence_tokens (h : statement.isWritable = true) :
    Sentence statement.tokens statement := by
  cases statement with
  | expr e => exact .expr (Expr.derives_tokens h).1
  | assign name e =>
    obtain ⟨-, he⟩ := Bool.and_eq_true_iff.1 h
    exact .assign (.bare name) ((Expr.derives_tokens he).2.loosen (by decide))

theorem spellable_tokens (h : statement.isWritable = true) :
    ∀ token ∈ statement.tokens, token.IsSpellable := by
  cases statement with
  | expr e => exact Expr.spellable_tokens h
  | assign name e =>
    obtain ⟨hname, he⟩ := Bool.and_eq_true_iff.1 h
    intro token htoken
    rcases List.mem_cons.1 htoken with rfl | htoken
    · exact hname
    · rcases List.mem_cons.1 htoken with rfl | htoken
      · trivial
      · exact Expr.spellable_enclose (Expr.spellable_tokens he) e token htoken

/-- **Every statement that can be written is read back from its text**, in every layout; an
expression also if it stands in parentheses as a whole. -/
theorem parse_written (statement : Statement) (layout : Layout)
    (h : statement.isWritable = true) :
    Statement.parse (layout.text statement.tokens) = .ok statement ∧
    ∀ e, statement = .expr e →
      Statement.parse (layout.text (.leftParen :: (e.tokens ++ [.rightParen]))) =
        .ok statement := by
  have hspell := spellable_tokens h
  refine ⟨layout.parse_text (sentence_tokens h) hspell, ?_⟩
  rintro e rfl
  have hgroup : Derives .primary (.leftParen :: (e.tokens ++ [.rightParen])) e :=
    .group (Expr.derives_tokens h).1
  refine layout.parse_text (.expr (hgroup.loosen (by decide))) ?_
  intro token htoken
  simp only [List.mem_cons, List.mem_append, List.not_mem_nil, or_false] at htoken
  rcases htoken with rfl | htoken | rfl
  · trivial
  · exact hspell token htoken
  · trivial

/-- A greeting with a name and a quote in it. -/
def greeting : Statement :=
  .assign "text" (.binary .add (.property (.ident "user") "name")
    (.binary .add (.literal (.string "'s \\ "))
      (.literal (.decimal ⟨false, 250, 2, by decide, by decide⟩))))

/-- The greeting is written with its operands in parentheses and read back. -/
theorem parse_written_greeting :
    Layout.spaced.text greeting.tokens =
      " text = ( ( user . name ) + ( '\\'s \\\\ ' + 2.50 ) ) " ∧
    Statement.parse " text = ( ( user . name ) + ( '\\'s \\\\ ' + 2.50 ) ) " = .ok greeting := by
  have htext : Layout.spaced.text greeting.tokens =
      " text = ( ( user . name ) + ( '\\'s \\\\ ' + 2.50 ) ) " := by rfl
  refine ⟨htext, ?_⟩
  have hparse := (parse_written greeting .spaced (by decide)).1
  rwa [htext] at hparse

end Statement

end DynamicSql

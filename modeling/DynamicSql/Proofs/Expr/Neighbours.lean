import DynamicSql.Proofs.Expr.Levels
import Mathlib.Data.List.Chain

/-!
# Neighbours in a sentence

The tokens of a sentence alternate between those that can start an operand and those that
can stand behind one.  `Token.precedes` says which of two tokens can follow which, and
`Sentence.operand_tokens` that all neighbours in a sentence do.  It is an induction on the
derivation: every part of a sentence starts and ends as an operand does, so that the parts fit
together where they meet.
-/

namespace DynamicSql

namespace Token

/-- Whether an operand can start with a token. -/
def opens : Token → Bool
  | integer _ | decimal _ | string _ | identifier _ | boolean _ | null => true
  | minus | not | leftParen => true
  | _ => false

/-- Whether an operand can end with a token. -/
def closes : Token → Bool
  | integer _ | decimal _ | string _ | identifier _ | boolean _ | null => true
  | rightParen | rightBracket => true
  | _ => false

/-- Whether a token can stand behind an operand. -/
def continues (token : Token) : Bool := !token.opens || token == minus

/-- Whether a token is an identifier. -/
def isIdentifier : Token → Bool
  | identifier _ => true
  | _ => false

/-- Whether one token can be followed by another in a sentence. -/
def precedes (token next : Token) : Bool :=
  if token.closes then next.continues
  else if token = dot then next.isIdentifier
  else next.opens

/-- Whether a token stands between two operands, like an operator. -/
def separates (token : Token) : Bool := token.continues && !token.closes && token != dot

theorem separates_of_binaryOp? {token : Token} {op : BinaryOp} (h : token.binaryOp? = some op) :
    token.separates = true := by
  cases token
  all_goals first | rfl | cases h

end Token

namespace Grammar

/-- Tokens that start and end as operands do, and each of which can be followed by the
next. -/
structure Operand (ts : List Token) : Prop where
  ne_nil : ts ≠ []
  first : ∀ token ∈ ts.head?, token.opens = true
  last : ∀ token ∈ ts.getLast?, token.closes = true
  chain : ts.IsChain fun token next => token.precedes next = true

namespace Operand

variable {ts us : List Token} {token : Token}

theorem single (hopens : token.opens = true) (hcloses : token.closes = true) :
    Operand [token] where
  ne_nil := List.cons_ne_nil token []
  first := by simpa using hopens
  last := by simpa using hcloses
  chain := .singleton token

/-- An operand behind a sign. -/
theorem prefixed (hopens : token.opens = true) (hcloses : token.closes = false)
    (hdot : token ≠ .dot) (h : Operand ts) : Operand (token :: ts) where
  ne_nil := List.cons_ne_nil token ts
  first := by simpa using hopens
  last := by
    rw [List.getLast?_cons_of_ne_nil h.ne_nil]
    exact h.last
  chain := by
    refine List.isChain_cons.2 ⟨fun next hnext => ?_, h.chain⟩
    rw [Token.precedes, hcloses, if_neg Bool.false_ne_true, if_neg hdot]
    exact h.first next hnext

/-- An operand in front of something that can stand behind it. -/
theorem append (h : Operand ts) (hne : us ≠ []) (hfirst : ∀ next ∈ us.head?, next.continues = true)
    (hlast : ∀ token ∈ us.getLast?, token.closes = true)
    (hchain : us.IsChain fun token next => token.precedes next = true) : Operand (ts ++ us) where
  ne_nil := List.append_ne_nil_of_left_ne_nil h.ne_nil us
  first := by
    rw [List.head?_append_of_ne_nil ts h.ne_nil]
    exact h.first
  last := by
    rw [List.getLast?_append_of_ne_nil ts hne]
    exact hlast
  chain := by
    refine List.isChain_append.2 ⟨h.chain, hchain, fun token htoken next hnext => ?_⟩
    rw [Token.precedes, if_pos (h.last token htoken)]
    exact hfirst next hnext

/-- An operand behind a token that can stand behind another one. -/
theorem closed (hcontinues : token.continues = true) (hcloses : token.closes = true)
    (h : Operand ts) : Operand (ts ++ [token]) :=
  h.append (List.cons_ne_nil token []) (by simpa using hcontinues) (by simpa using hcloses)
    (.singleton token)

/-- Two operands with a token between them. -/
theorem joined (hseparates : token.separates = true) (ha : Operand ts) (hb : Operand us) :
    Operand (ts ++ token :: us) := by
  simp only [Token.separates, Bool.and_eq_true, Bool.not_eq_true', bne_iff_ne] at hseparates
  obtain ⟨⟨hcontinues, hcloses⟩, hdot⟩ := hseparates
  refine ha.append (List.cons_ne_nil token us) (by simpa using hcontinues) ?_ ?_
  · rw [List.getLast?_cons_of_ne_nil hb.ne_nil]
    exact hb.last
  · refine List.isChain_cons.2 ⟨fun next hnext => ?_, hb.chain⟩
    rw [Token.precedes, hcloses, if_neg Bool.false_ne_true, if_neg hdot]
    exact hb.first next hnext

theorem property (h : Operand ts) (name : String) :
    Operand (ts ++ [.dot, .identifier name]) := by
  refine h.append (List.cons_ne_nil _ _) ?_ ?_ (.cons_cons rfl (.singleton _))
  · rintro next ⟨⟩
    rfl
  · rintro token ⟨⟩
    rfl

theorem group (h : Operand ts) : Operand (.leftParen :: (ts ++ [.rightParen])) :=
  .prefixed rfl rfl (by decide) (h.closed rfl rfl)

end Operand

/-- The tokens of an expression are an operand. -/
theorem Derives.operand_tokens {c : Category} {ts : List Token} {e : Expr} (h : Derives c ts e) :
    Operand ts := by
  induction h with
  | literal h => cases h <;> exact .single rfl rfl
  | name => exact .single rfl rfl
  | group _ ih => exact ih.group
  | property _ name ih => exact ih.property name
  | index _ _ ih ihi => exact .joined rfl ih (ihi.closed rfl rfl)
  | negate _ ih | not _ ih => exact .prefixed rfl rfl (by decide) ih
  | primary _ ih | navigation _ ih | operand _ _ ih => exact ih
  | join _ ho _ _ iha ihb =>
    exact .joined (Token.separates_of_binaryOp? (Category.level_operator? ho).1) iha ihb

/-- The tokens of a sentence are an operand. -/
theorem Sentence.operand_tokens {ts : List Token} {statement : Statement}
    (h : Sentence ts statement) : Operand ts := by
  cases h with
  | expr h => exact h.operand_tokens
  | assign hname h => exact .joined rfl hname.derives.operand_tokens h.operand_tokens

end Grammar

end DynamicSql

import DynamicSql.Proofs.Expr.Levels
import DynamicSql.Proofs.Expr.Streams

/-!
# What the parser finds

The parser reads every expression that the grammar derives, whatever follows
it.  The grammar builds a chain of operators from its left end, while the parser
carries the left operand along a loop; so what is said of an expression `e` is
that reading its tokens leads to the loop with `e` as the operand, and the rest
of the chain is the loop's affair.

Fuel is measured by the number of tokens ahead: a loop needs three steps a token
and one more, an operand with its prefix operators two, a whole chain three.
-/

namespace DynamicSql

namespace Parser

open Grammar TokenStream

/-- The parser reads a primary expression. -/
def PrimaryReached (ts : List Token) (e : Expr) : Prop :=
  ∀ stream rest fuel, Reads stream ts rest → Ready rest → 3 * stream.length + 1 ≤ fuel →
    (current? stream).bind Token.unaryOp? = none ∧ primary fuel stream = .ok (e, rest)

/-- The parser comes to the steps behind an expression. -/
def NavigationReached (ts : List Token) (e : Expr) : Prop :=
  ∀ stream rest fuel result, Reads stream ts rest → Ready rest → 3 * stream.length + 2 ≤ fuel →
    (∀ fuel, 3 * rest.length + 1 ≤ fuel → postfixes fuel e rest = result) →
    unary fuel stream = result

/-- The parser reads an operand with its prefix operators. -/
def UnaryReached (ts : List Token) (e : Expr) : Prop :=
  ∀ stream rest fuel, Reads stream ts rest → Ready rest → EndsNavigation rest →
    3 * stream.length + 2 ≤ fuel → unary fuel stream = .ok (e, rest)

/-- The parser comes to the operators behind an expression, if they are of at most level `n`. -/
def ChainReached (n : Nat) (ts : List Token) (e : Expr) : Prop :=
  ∀ stream rest fuel level result, level ≤ n → Reads stream ts rest → Ready rest →
    EndsNavigation rest → EndsBelow (n + 1) rest → 3 * stream.length + 3 ≤ fuel →
    (∀ fuel, 3 * rest.length + 1 ≤ fuel → operators fuel level e rest = result) →
    binary fuel level stream = result

variable {ts us : List Token} {e a b i : Expr} {n fuel level : Nat} {stream rest : TokenStream}

/-! ## Where loops end -/

theorem operators_endsBelow (hends : EndsBelow level rest) (hfuel : 1 ≤ fuel) :
    operators fuel level e rest = .ok (e, rest) := by
  obtain ⟨k, rfl⟩ : ∃ k, fuel = k + 1 := ⟨fuel - 1, by omega⟩
  rw [operators]
  split
  · rfl
  · rename_i op hop
    rw [if_pos (hends op hop)]

theorem postfixes_endsNavigation (hends : EndsNavigation rest) (hfuel : 1 ≤ fuel) :
    postfixes fuel e rest = .ok (e, rest) := by
  obtain ⟨k, rfl⟩ : ∃ k, fuel = k + 1 := ⟨fuel - 1, by omega⟩
  rw [postfixes, if_neg hends.1, if_neg hends.2]

/-- A chain whose operators have all been read is a result. -/
theorem ChainReached.binary (h : ChainReached n ts e) (hlevel : level ≤ n)
    (hreads : Reads stream ts rest) (hready : Ready rest) (hnav : EndsNavigation rest)
    (hends : EndsBelow level rest) (hfuel : 3 * stream.length + 3 ≤ fuel) :
    Parser.binary fuel level stream = .ok (e, rest) :=
  h stream rest fuel level _ hlevel hreads hready hnav (hends.mono (by omega)) hfuel
    fun _ hfuel => operators_endsBelow hends (by omega)

/-- A token that stands neither for an operator nor for a further step ends a chain. -/
theorem ends_next {token : Token} (start stop : Nat) (rest : TokenStream)
    (hop : token.binaryOp? = none) (hdot : token ≠ .dot) (hbracket : token ≠ .leftBracket) :
    EndsNavigation (.next ⟨token, start, stop⟩ rest) ∧
      EndsBelow level (.next ⟨token, start, stop⟩ rest) := by
  refine ⟨⟨?_, ?_⟩, ?_⟩
  · simpa [current?] using hdot
  · simpa [current?] using hbracket
  · intro op h
    simp [current?, hop] at h

/-! ## Primary expressions -/

theorem primaryReached_literal {token : Token} {value : Value} (h : Denotes token value) :
    PrimaryReached [token] (.literal value) := by
  intro stream rest fuel hreads hready hfuel
  obtain ⟨⟨_, start, stop⟩, after, rfl, rfl, hnil⟩ := reads_cons hreads
  cases reads_nil hnil
  obtain ⟨k, rfl⟩ : ∃ k, fuel = k + 1 := ⟨fuel - 1, by omega⟩
  have hliteral := fun stream => h.literal? stream
  cases h <;> refine ⟨rfl, ?_⟩ <;>
    simp only [primary, current?, hliteral, advance_next hready, bind, Except.bind]

theorem primaryReached_name (name : String) :
    PrimaryReached [.identifier name] (.ident name) := by
  intro stream rest fuel hreads hready hfuel
  obtain ⟨⟨_, start, stop⟩, after, rfl, rfl, hnil⟩ := reads_cons hreads
  cases reads_nil hnil
  obtain ⟨k, rfl⟩ : ∃ k, fuel = k + 1 := ⟨fuel - 1, by omega⟩
  refine ⟨rfl, ?_⟩
  simp only [primary, current?, advance_next hready, bind, Except.bind]

theorem primaryReached_group (h : ChainReached 1 ts e) :
    PrimaryReached (.leftParen :: (ts ++ [.rightParen])) e := by
  intro stream rest fuel hreads hready hfuel
  obtain ⟨⟨_, start, stop⟩, after, rfl, rfl, htail⟩ := reads_cons hreads
  obtain ⟨middle, hinner, hclose⟩ := reads_append htail
  obtain ⟨⟨_, start', stop'⟩, after', rfl, rfl, hnil⟩ := reads_cons hclose
  cases reads_nil hnil
  obtain ⟨k, rfl⟩ : ∃ k, fuel = k + 1 := ⟨fuel - 1, by omega⟩
  obtain ⟨hnav, hends⟩ := ends_next start' stop' rest rfl (by decide : Token.rightParen ≠ .dot)
    (by decide)
  rw [TokenStream.length] at hfuel
  have hinner' : binary k 1 after = .ok (e, .next ⟨.rightParen, start', stop'⟩ rest) :=
    h.binary (Nat.le_refl 1) hinner rfl hnav hends (by omega)
  refine ⟨rfl, ?_⟩
  simp only [primary, current?, advance_next (ready_of_reads hinner rfl), hinner',
    advance_next hready, if_true, bind, Except.bind]

/-! ## Steps behind an operand -/

theorem PrimaryReached.navigation (h : PrimaryReached ts e) : NavigationReached ts e := by
  intro stream rest fuel result hreads hready hfuel hrest
  obtain ⟨k, rfl⟩ : ∃ k, fuel = k + 1 := ⟨fuel - 1, by omega⟩
  obtain ⟨hunary, hprimary⟩ := h stream rest k hreads hready (by omega)
  rw [unary, hunary]
  simp only [hprimary, bind, Except.bind]
  have := hreads.length
  exact hrest k (by omega)

theorem NavigationReached.property (h : NavigationReached ts e) (name : String) :
    NavigationReached (ts ++ [.dot, .identifier name]) (.property e name) := by
  intro stream rest fuel result hreads hready hfuel hrest
  obtain ⟨middle, hbase, hstep⟩ := reads_append hreads
  obtain ⟨⟨_, start, stop⟩, after, rfl, rfl, hname⟩ := reads_cons hstep
  obtain ⟨⟨_, start', stop'⟩, after', rfl, rfl, hnil⟩ := reads_cons hname
  cases reads_nil hnil
  refine h stream _ fuel result hbase rfl hfuel fun fuel hfuel => ?_
  simp only [TokenStream.length] at hfuel
  obtain ⟨k, rfl⟩ : ∃ k, fuel = k + 1 := ⟨fuel - 1, by omega⟩
  rw [← hrest k (by omega), postfixes]
  simp only [current?, if_true, advance_next (ready_next _ _), advance_next hready, bind,
    Except.bind]

theorem NavigationReached.index (h : NavigationReached ts e) (hi : ChainReached 1 us i) :
    NavigationReached (ts ++ .leftBracket :: (us ++ [.rightBracket])) (.index e i) := by
  intro stream rest fuel result hreads hready hfuel hrest
  obtain ⟨middle, hbase, hstep⟩ := reads_append hreads
  obtain ⟨⟨_, start, stop⟩, after, rfl, rfl, htail⟩ := reads_cons hstep
  obtain ⟨inner, hinner, hclose⟩ := reads_append htail
  obtain ⟨⟨_, start', stop'⟩, after', rfl, rfl, hnil⟩ := reads_cons hclose
  cases reads_nil hnil
  refine h stream _ fuel result hbase rfl hfuel fun fuel hfuel => ?_
  have hlength := hinner.length
  simp only [TokenStream.length] at hfuel hlength
  obtain ⟨k, rfl⟩ : ∃ k, fuel = k + 1 := ⟨fuel - 1, by omega⟩
  obtain ⟨hnav, hends⟩ := ends_next start' stop' rest rfl
    (by decide : Token.rightBracket ≠ .dot) (by decide)
  have hindex : binary k 1 after = .ok (i, .next ⟨.rightBracket, start', stop'⟩ rest) :=
    hi.binary (Nat.le_refl 1) hinner rfl hnav hends (by omega)
  rw [← hrest k (by omega), postfixes]
  simp only [current?, advance_next (ready_of_reads hinner rfl), hindex, expect, if_true,
    advance_next hready, bind, Except.bind, Option.some.injEq, reduceCtorEq, if_false]

/-! ## Prefix operators -/

theorem NavigationReached.unary (h : NavigationReached ts e) : UnaryReached ts e := by
  intro stream rest fuel hreads hready hends hfuel
  exact h stream rest fuel _ hreads hready hfuel
    fun _ hfuel => postfixes_endsNavigation hends (by omega)

/-- A prefix operator before an operand. -/
theorem UnaryReached.operator {token : Token} {op : UnaryOp} (hop : token.unaryOp? = some op)
    (h : UnaryReached ts e) : UnaryReached (token :: ts) (.unary op e) := by
  intro stream rest fuel hreads hready hends hfuel
  obtain ⟨lexeme, after, rfl, rfl, htail⟩ := reads_cons hreads
  rw [TokenStream.length] at hfuel
  obtain ⟨k, rfl⟩ : ∃ k, fuel = k + 1 := ⟨fuel - 1, by omega⟩
  have hcurrent : (current? (.next lexeme after)).bind Token.unaryOp? = some op := hop
  rw [Parser.unary, hcurrent]
  simp only [advance_next (ready_of_reads htail hready),
    h after rest k htail hready hends (by omega), bind, Except.bind]

/-! ## Chains of operators -/

theorem UnaryReached.chain (h : UnaryReached ts e) : ChainReached 7 ts e := by
  intro stream rest fuel level result _ hreads hready hnav _ hfuel hrest
  obtain ⟨k, rfl⟩ : ∃ k, fuel = k + 1 := ⟨fuel - 1, by omega⟩
  have hlength := hreads.length
  rw [Parser.binary]
  simp only [h stream rest k hreads hready hnav (by omega), bind, Except.bind]
  exact hrest k (by omega)

/-- An operand of a chain is a chain. -/
theorem ChainReached.loosen (h : ChainReached (n + 1) ts e) : ChainReached n ts e := by
  intro stream rest fuel level result hlevel hreads hready hnav hends hfuel hrest
  exact h stream rest fuel level result (by omega) hreads hready hnav (hends.mono (by omega))
    hfuel hrest

/-- One more operator of a chain, with its right operand. -/
theorem ChainReached.join {token : Token} {op : BinaryOp} (ha : ChainReached n ts a)
    (hb : ChainReached (n + 1) us b) (hop : token.binaryOp? = some op) (hn : op.level = n) :
    ChainReached n (ts ++ token :: us) (.binary op a b) := by
  intro stream rest fuel level result hlevel hreads hready hnav hends hfuel hrest
  obtain ⟨middle, hleft, htail⟩ := reads_append hreads
  obtain ⟨lexeme, after, rfl, rfl, hright⟩ := reads_cons htail
  have hcurrent : (current? (.next lexeme after)).bind Token.binaryOp? = some op := hop
  refine ha stream _ fuel level result hlevel hleft rfl (endsNavigation_of_binaryOp? rfl hop) ?_
    hfuel fun fuel hfuel => ?_
  · intro op' hop'
    rw [hcurrent] at hop'
    cases hop'
    omega
  · have hlength := hright.length
    rw [TokenStream.length] at hfuel
    obtain ⟨k, rfl⟩ : ∃ k, fuel = k + 1 := ⟨fuel - 1, by omega⟩
    -- the right operand takes tighter operators only, so the loop goes on behind it
    have hoperand : Parser.binary k (op.level + 1) after = .ok (b, rest) :=
      hb.binary (by omega) hright hready hnav (hn ▸ hends) (by omega)
    rw [← hrest k (by omega), operators, hcurrent]
    simp only [advance_next (ready_of_reads hright hready), hoperand, bind, Except.bind]
    rw [if_neg (by omega)]

/-! ## All expressions -/

/-- What the parser does with an expression of a category. -/
def Reached : Category → List Token → Expr → Prop
  | .primary => PrimaryReached
  | .navigation => NavigationReached
  | .unary => UnaryReached
  | c => ChainReached c.level

theorem reached_chain {c d : Category} (hc : c.operand? = some d) :
    Reached c = ChainReached c.level := by
  cases c <;> cases hc <;> rfl

/-- What the operators of a category join is the operand of a chain. -/
theorem Reached.operand {c d : Category} (hc : c.operand? = some d) (h : Reached d ts e) :
    ChainReached (c.level + 1) ts e := by
  cases c <;> cases hc
  case multiplicative => exact UnaryReached.chain h
  all_goals exact h

theorem reached {c : Category} (h : Derives c ts e) : Reached c ts e := by
  induction h with
  | literal h => exact primaryReached_literal h
  | name name => exact primaryReached_name name
  | group _ ih => exact primaryReached_group ih
  | primary _ ih => exact PrimaryReached.navigation ih
  | property _ name ih => exact NavigationReached.property ih name
  | index _ _ ih ihi => exact NavigationReached.index ih ihi
  | navigation _ ih => exact NavigationReached.unary ih
  | negate _ ih => exact UnaryReached.operator rfl ih
  | not _ ih => exact UnaryReached.operator rfl ih
  | operand hc _ ih =>
    rw [reached_chain hc]
    exact (ih.operand hc).loosen
  | join hc ho _ _ iha ihb =>
    obtain ⟨hop, hlevel⟩ := Category.level_operator? ho
    rw [reached_chain hc] at iha ⊢
    exact iha.join (ihb.operand hc) hop hlevel

end Parser

end DynamicSql

import DynamicSql.Proofs.Expr.Levels
import DynamicSql.Proofs.Expr.Streams

/-!
# What the parser accepts

Every result of the parser is derived by the grammar from the tokens it has
read.  The loop over the infix operators carries the invariant: what has been
read so far is an expression of some category at least as tight as the loop's
level, and the next operator is of no tighter level than that category, so that
it can join the expression to what follows.
-/

namespace DynamicSql

namespace Parser

open Grammar TokenStream

/-- From `start`, the tokens of an expression have been read, and `rest` follows. -/
def Reading (c : Category) (start : TokenStream) (e : Expr) (rest : TokenStream) : Prop :=
  Ready rest ∧ ∃ ts, Reads start ts rest ∧ Derives c ts e

variable {c d : Category} {start middle stream rest : TokenStream} {e base left right : Expr}

theorem Reading.loosen (h : Reading d start e rest) (hlevel : c.level ≤ d.level) :
    Reading c start e rest := by
  obtain ⟨hready, ts, hreads, hderives⟩ := h
  exact ⟨hready, ts, hreads, hderives.loosen hlevel⟩

/-- The reading of a primary expression that is one token. -/
theorem reading_of_advance {token : Token} (hc : current? stream = some token)
    (h : advance stream = .ok rest) (hderives : Derives c [token] e) :
    Reading c stream e rest := by
  obtain ⟨lexeme, rfl, rfl, hready⟩ := advance_eq_ok hc h
  exact ⟨hready, [lexeme.token], .cons (.nil rest), hderives⟩

/-- An operator between two operands joins what was read on both sides. -/
theorem Reading.join {token : Token} {op : BinaryOp} (hleft : Reading c start left middle)
    (hcur : current? middle = some token) (hadvance : advance middle = .ok stream)
    (hoperand : c.operand? = some d) (hoperator : c.operator? token = some op)
    (hright : Reading d stream right rest) : Reading c start (.binary op left right) rest := by
  obtain ⟨_, ts, hts, hl⟩ := hleft
  obtain ⟨hready, us, hus, hr⟩ := hright
  obtain ⟨lexeme, rfl, rfl, _⟩ := advance_eq_ok hcur hadvance
  exact ⟨hready, _, hts.append (.cons hus), .join hoperand hoperator hl hr⟩

/-- What the parts of the parser promise about their results. -/
structure Sound (fuel : Nat) : Prop where
  binary : ∀ {c : Category} {level : Nat} {stream rest : TokenStream} {e : Expr},
    Parser.binary fuel level stream = .ok (e, rest) → c.level = level → level ≤ 7 →
    Reading c stream e rest ∧ EndsBelow level rest
  operators : ∀ {c d : Category} {level : Nat} {start stream rest : TokenStream} {left e : Expr},
    Parser.operators fuel level left stream = .ok (e, rest) → c.level = level → level ≤ d.level →
    Reading d start left stream → EndsBelow (d.level + 1) stream →
    Reading c start e rest ∧ EndsBelow level rest
  unary : ∀ {stream rest : TokenStream} {e : Expr},
    Parser.unary fuel stream = .ok (e, rest) → Reading .unary stream e rest
  postfixes : ∀ {start stream rest : TokenStream} {base e : Expr},
    Parser.postfixes fuel base stream = .ok (e, rest) →
    Reading .navigation start base stream → Reading .navigation start e rest
  primary : ∀ {stream rest : TokenStream} {e : Expr},
    Parser.primary fuel stream = .ok (e, rest) → Reading .primary stream e rest

variable {fuel level : Nat}

theorem binary_sound (ih : Sound fuel) (h : binary (fuel + 1) level stream = .ok (e, rest))
    (hc : c.level = level) (hlevel : level ≤ 7) :
    Reading c stream e rest ∧ EndsBelow level rest := by
  rw [binary] at h
  obtain ⟨⟨left, middle⟩, hunary, hoperators⟩ := bind_eq_ok h
  exact ih.operators (d := .unary) hoperators hc hlevel (ih.unary hunary)
    ((endsBelow_seven middle).mono (by decide))

theorem operators_sound (ih : Sound fuel)
    (h : operators (fuel + 1) level left stream = .ok (e, rest))
    (hc : c.level = level) (hd : level ≤ d.level)
    (hleft : Reading d start left stream) (hends : EndsBelow (d.level + 1) stream) :
    Reading c start e rest ∧ EndsBelow level rest := by
  rw [operators] at h
  split at h
  · rename_i hnone
    cases h
    refine ⟨hleft.loosen (by omega), ?_⟩
    intro op hop
    rw [hnone] at hop
    cases hop
  · rename_i op hop
    split at h
    · rename_i hlt
      cases h
      refine ⟨hleft.loosen (by omega), ?_⟩
      intro op' hop'
      rw [hop] at hop'
      cases hop'
      exact hlt
    · rename_i hge
      obtain ⟨after, hadvance, hright⟩ := bind_eq_ok h
      obtain ⟨⟨right, middle⟩, hbinary, hloop⟩ := bind_eq_ok hright
      obtain ⟨token, hcur, htoken⟩ := Option.bind_eq_some_iff.1 hop
      obtain ⟨c', d', hoperator, hoperand, hlevel⟩ := Category.exists_operator? htoken
      have hd' := Category.level_operand? hoperand
      -- the operator is no tighter than what was read, which is its left operand
      have hle : op.level < d.level + 1 := hends op hop
      obtain ⟨hright, hends'⟩ := ih.binary (c := d') hbinary (by omega) (by omega)
      have hjoin : Reading c' start (.binary op left right) middle :=
        (hleft.loosen (by omega)).join hcur hadvance hoperand hoperator hright
      exact ih.operators hloop hc (by omega) hjoin (by rwa [hlevel])

theorem unary_sound (ih : Sound fuel) (h : unary (fuel + 1) stream = .ok (e, rest)) :
    Reading .unary stream e rest := by
  rw [unary] at h
  split at h
  · rename_i op hop
    obtain ⟨after, hadvance, hnext⟩ := bind_eq_ok h
    obtain ⟨⟨operand, middle⟩, hunary, hresult⟩ := bind_eq_ok hnext
    cases hresult
    obtain ⟨token, hcur, htoken⟩ := Option.bind_eq_some_iff.1 hop
    obtain ⟨lexeme, rfl, rfl, _⟩ := advance_eq_ok hcur hadvance
    obtain ⟨hready, ts, hts, hoperand⟩ := ih.unary hunary
    refine ⟨hready, _, .cons hts, ?_⟩
    unfold Token.unaryOp? at htoken
    split at htoken <;> cases htoken
    case h_1 hminus => rw [hminus]; exact .negate hoperand
    case h_2 hnot => rw [hnot]; exact .not hoperand
  · obtain ⟨⟨base, middle⟩, hprimary, hsteps⟩ := bind_eq_ok h
    have hbase : Reading .navigation stream base middle := (ih.primary hprimary).loosen (by decide)
    exact (ih.postfixes hsteps hbase).loosen (by decide)

theorem postfixes_sound (ih : Sound fuel)
    (h : postfixes (fuel + 1) base stream = .ok (e, rest))
    (hbase : Reading .navigation start base stream) : Reading .navigation start e rest := by
  rw [postfixes] at h
  obtain ⟨hready, ts, hts, hderives⟩ := hbase
  split at h
  · rename_i hdot
    obtain ⟨after, hadvance, hnext⟩ := bind_eq_ok h
    obtain ⟨lexeme, rfl, hlexeme, _⟩ := advance_eq_ok hdot hadvance
    split at hnext
    · rename_i name hname
      obtain ⟨after', hadvance', hsteps⟩ := bind_eq_ok hnext
      obtain ⟨lexeme', rfl, hlexeme', hready'⟩ := advance_eq_ok hname hadvance'
      refine ih.postfixes hsteps ⟨hready', _, hts.append (.cons (.cons (.nil _))), ?_⟩
      rw [hlexeme, hlexeme']
      exact .property hderives name
    · cases hnext
  · split at h
    · rename_i hbracket
      obtain ⟨after, hadvance, hnext⟩ := bind_eq_ok h
      obtain ⟨⟨index, middle⟩, hbinary, hclosing⟩ := bind_eq_ok hnext
      obtain ⟨after', hexpect, hsteps⟩ := bind_eq_ok hclosing
      obtain ⟨lexeme, rfl, hlexeme, _⟩ := advance_eq_ok hbracket hadvance
      obtain ⟨⟨_, us, hus, hindex⟩, _⟩ := ih.binary (c := .or) hbinary rfl (by decide)
      rw [expect] at hexpect
      split at hexpect
      · rename_i hclose
        obtain ⟨lexeme', rfl, hlexeme', hready'⟩ := advance_eq_ok hclose hexpect
        refine ih.postfixes hsteps ⟨hready', _, hts.append (.cons hus.snoc), ?_⟩
        rw [hlexeme, hlexeme']
        exact .index hderives hindex
      · cases hexpect
    · cases h
      exact ⟨hready, ts, hts, hderives⟩

theorem primary_sound (ih : Sound fuel) (h : primary (fuel + 1) stream = .ok (e, rest)) :
    Reading .primary stream e rest := by
  rw [primary] at h
  split at h
  · cases h
  · rename_i name hcur
    obtain ⟨after, hadvance, hresult⟩ := bind_eq_ok h
    cases hresult
    exact reading_of_advance hcur hadvance (.name name)
  · rename_i hcur
    obtain ⟨after, hadvance, hnext⟩ := bind_eq_ok h
    obtain ⟨⟨inner, middle⟩, hbinary, hclosing⟩ := bind_eq_ok hnext
    obtain ⟨lexeme, rfl, hlexeme, _⟩ := advance_eq_ok hcur hadvance
    obtain ⟨⟨_, ts, hts, hinner⟩, _⟩ := ih.binary (c := .or) hbinary rfl (by decide)
    dsimp only at hclosing
    split at hclosing
    · rename_i hclose
      obtain ⟨after', hadvance', hresult⟩ := bind_eq_ok hclosing
      cases hresult
      obtain ⟨lexeme', rfl, hlexeme', hready'⟩ := advance_eq_ok hclose hadvance'
      refine ⟨hready', _, .cons hts.snoc, ?_⟩
      rw [hlexeme, hlexeme']
      exact .group hinner
    · cases hclosing
  · rename_i token _ _ hcur
    obtain ⟨literal, hliteral, hnext⟩ := bind_eq_ok h
    split at hnext
    · rename_i value
      obtain ⟨after, hadvance, hresult⟩ := bind_eq_ok hnext
      cases hresult
      exact reading_of_advance hcur hadvance (.literal (denotes_of_literal? hliteral))
    · cases hnext

theorem sound (fuel : Nat) : Sound fuel := by
  induction fuel with
  | zero =>
    constructor <;> intros <;>
      simp_all [binary, operators, unary, postfixes, primary, fail]
  | succ fuel ih =>
    exact {
      binary := binary_sound ih
      operators := operators_sound ih
      unary := unary_sound ih
      postfixes := postfixes_sound ih
      primary := primary_sound ih }

end Parser

end DynamicSql

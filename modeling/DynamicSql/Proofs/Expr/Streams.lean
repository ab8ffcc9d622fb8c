import DynamicSql.Expr.Parser

/-!
# Tokens read from a stream

How a stream divides into the tokens that a parser has read and the stream it
goes on with, and what the parser sees of the latter: it is `Ready` where its
next token could be read, and its next operator decides which levels end there.
-/

namespace DynamicSql

namespace TokenStream

/-- A stream that starts with tokens and goes on as another stream. -/
inductive Reads : TokenStream → List Token → TokenStream → Prop
  | nil (stream) : Reads stream [] stream
  | cons {lexeme stream tokens rest} (h : Reads stream tokens rest) :
      Reads (.next lexeme stream) (lexeme.token :: tokens) rest

/-- A stream with the given tokens. -/
def ofTokens : List Token → TokenStream
  | [] => .done 0
  | token :: tokens => .next ⟨token, 0, 0⟩ (ofTokens tokens)

variable {stream middle rest : TokenStream} {tokens others : List Token}

theorem Reads.append (h : Reads stream tokens middle) (h' : Reads middle others rest) :
    Reads stream (tokens ++ others) rest := by
  induction h with
  | nil => exact h'
  | cons _ ih => exact .cons (ih h')

/-- Reading one more token. -/
theorem Reads.snoc {lexeme : Lexeme} (h : Reads stream tokens (.next lexeme rest)) :
    Reads stream (tokens ++ [lexeme.token]) rest :=
  h.append (.cons (.nil rest))

theorem reads_cons {token : Token} (h : Reads stream (token :: tokens) rest) :
    ∃ lexeme after, stream = .next lexeme after ∧ lexeme.token = token ∧
      Reads after tokens rest := by
  cases h with
  | cons h => exact ⟨_, _, rfl, rfl, h⟩

theorem reads_append (h : Reads stream (tokens ++ others) rest) :
    ∃ middle, Reads stream tokens middle ∧ Reads middle others rest := by
  induction tokens generalizing stream with
  | nil => exact ⟨stream, .nil stream, h⟩
  | cons token tokens ih =>
    obtain ⟨lexeme, after, rfl, rfl, htail⟩ := reads_cons h
    obtain ⟨middle, h₁, h₂⟩ := ih htail
    exact ⟨middle, .cons h₁, h₂⟩

theorem reads_nil (h : Reads stream [] rest) : stream = rest := by
  cases h
  rfl

theorem Reads.length (h : Reads stream tokens rest) :
    stream.length = tokens.length + rest.length := by
  induction h with
  | nil => simp
  | cons _ ih => simp only [TokenStream.length, ih, List.length_cons]; omega

theorem Reads.error? (h : Reads stream tokens rest) : stream.error? = rest.error? := by
  induction h with
  | nil => rfl
  | cons _ ih => exact ih

theorem Reads.tokens_eq (h : Reads stream tokens rest) :
    stream.lexemes.map Lexeme.token = tokens ++ rest.lexemes.map Lexeme.token := by
  induction h with
  | nil => rfl
  | cons _ ih => simp [lexemes, ih]

/-- The tokens of a stream without a fault are those of its lexemes. -/
theorem all_eq_ok_iff :
    stream.all = .ok tokens ↔
      stream.error? = none ∧ stream.lexemes.map Lexeme.token = tokens := by
  rw [all]
  cases stream.error? with
  | none => exact ⟨fun h => ⟨rfl, Except.ok.inj h⟩, fun h => congrArg _ h.2⟩
  | some error => exact ⟨nofun, nofun⟩

/-- A text without a fault is read to its end. -/
theorem reads_of_all (h : stream.all = .ok tokens) :
    ∃ position, Reads stream tokens (.done position) := by
  induction stream generalizing tokens with
  | done position => cases h; exact ⟨position, .nil _⟩
  | fault error => cases h
  | next lexeme stream ih =>
    obtain ⟨hnone, rfl⟩ := all_eq_ok_iff.1 h
    obtain ⟨position, hreads⟩ := ih (all_eq_ok_iff.2 ⟨hnone, rfl⟩)
    exact ⟨position, .cons hreads⟩

theorem all_of_reads {position : Nat} (h : Reads stream tokens (.done position)) :
    stream.all = .ok tokens := by
  rw [all_eq_ok_iff, h.error?, h.tokens_eq]
  simp [TokenStream.error?, lexemes]

theorem all_ofTokens (tokens : List Token) : (ofTokens tokens).all = .ok tokens := by
  suffices h : Reads (ofTokens tokens) tokens (.done 0) from all_of_reads h
  induction tokens with
  | nil => exact .nil _
  | cons token tokens ih => exact .cons ih

end TokenStream

namespace Parser

open TokenStream (Reads)

variable {stream rest : TokenStream}

/-- A stream whose current token could be read, or that has ended. -/
def Ready (stream : TokenStream) : Prop := ready stream = .ok stream

@[simp] theorem ready_next (lexeme : Lexeme) (stream : TokenStream) :
    Ready (.next lexeme stream) := rfl

theorem ready_of_ready (h : ready stream = .ok rest) : rest = stream ∧ Ready rest := by
  cases stream <;> cases h <;> exact ⟨rfl, rfl⟩

theorem advance_next {lexeme : Lexeme} (h : Ready stream) :
    advance (.next lexeme stream) = .ok stream := h

/-- A stream is readable where what it goes on as is. -/
theorem ready_of_reads {tokens : List Token} (h : Reads stream tokens rest) (hr : Ready rest) :
    Ready stream := by
  cases h with
  | nil => exact hr
  | cons => rfl

/-- Going on from a current token reads it. -/
theorem advance_eq_ok {after : TokenStream} {token : Token} (hc : current? stream = some token)
    (h : advance stream = .ok after) :
    ∃ lexeme, stream = .next lexeme after ∧ lexeme.token = token ∧ Ready after := by
  cases stream with
  | next lexeme tail =>
    obtain ⟨rfl, hready⟩ := ready_of_ready h
    exact ⟨lexeme, rfl, Option.some.inj hc, hready⟩
  | done => cases hc
  | fault => cases hc

/-- Where a readable stream has no current token, it has ended. -/
theorem done_of_current? (hr : Ready stream) (hc : current? stream = none) :
    ∃ position, stream = .done position := by
  cases stream with
  | next => cases hc
  | done position => exact ⟨position, rfl⟩
  | fault => cases hr

/-- The infix operator at the start of a stream, if there is one, is of a level below `n`. -/
def EndsBelow (n : Nat) (stream : TokenStream) : Prop :=
  ∀ op, (current? stream).bind Token.binaryOp? = some op → op.level < n

theorem EndsBelow.mono {m n : Nat} (h : EndsBelow m stream) (hmn : m ≤ n) : EndsBelow n stream :=
  fun op hop => Nat.lt_of_lt_of_le (h op hop) hmn

theorem level_le (op : BinaryOp) : 1 ≤ op.level ∧ op.level ≤ 6 := by
  cases op <;> decide

/-- Every operator is of a level below that of the prefix operators. -/
theorem endsBelow_seven (stream : TokenStream) : EndsBelow 7 stream := by
  intro op _
  have := (level_le op).2
  omega

/-- A stream that does not go on with a property or an index. -/
def EndsNavigation (stream : TokenStream) : Prop :=
  current? stream ≠ some .dot ∧ current? stream ≠ some .leftBracket

theorem endsNavigation_of_binaryOp? {token : Token} {op : BinaryOp}
    (hc : current? stream = some token) (ho : token.binaryOp? = some op) :
    EndsNavigation stream := by
  constructor <;> intro h <;> (rw [hc] at h; cases h; simp [Token.binaryOp?] at ho)

/-! ## Results of steps -/

theorem bind_eq_ok {ε α β : Type} {x : Except ε α} {f : α → Except ε β} {b : β}
    (h : x >>= f = .ok b) : ∃ a, x = .ok a ∧ f a = .ok b := by
  cases x with
  | error => cases h
  | ok a => exact ⟨a, rfl, h⟩

end Parser

end DynamicSql

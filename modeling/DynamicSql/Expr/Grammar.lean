import DynamicSql.Expr.Token
import DynamicSql.Decimal.Text

/-!
# The grammar of expressions

What the language is, said without a parser.  Every kind of expression has a
category, from the loosest to the tightest:

    or             = and { "||" and }
    and            = equality { "&&" equality }
    equality       = comparison { ("==" | "!=") comparison }
    comparison     = additive { ("<" | "<=" | ">" | ">=") additive }
    additive       = multiplicative { ("+" | "-") multiplicative }
    multiplicative = unary { ("*" | "/" | "%") unary }
    unary          = ("-" | "!") unary | navigation
    navigation     = primary { "." identifier | "[" or "]" }
    primary        = literal | identifier | "(" or ")"
    statement      = or | name "=" or

All operators between two operands associate to the left, and the name that a
statement assigns to may stand in parentheses.
-/

namespace DynamicSql

namespace Grammar

/-- The categories of expressions, from the loosest to the tightest. -/
inductive Category
  | or | and | equality | comparison | additive | multiplicative
  | unary | navigation | primary
  deriving DecidableEq, Repr

namespace Category

/-- The category of what the operators of a category join. -/
def operand? : Category → Option Category
  | or => some and
  | and => some equality
  | equality => some comparison
  | comparison => some additive
  | additive => some multiplicative
  | multiplicative => some unary
  | _ => none

/-- The operator that a token stands for between two operands of a category. -/
def operator? : Category → Token → Option BinaryOp
  | or, .or => some .or
  | and, .and => some .and
  | equality, .equal => some .equal
  | equality, .notEqual => some .notEqual
  | comparison, .less => some .less
  | comparison, .lessEqual => some .lessEqual
  | comparison, .greater => some .greater
  | comparison, .greaterEqual => some .greaterEqual
  | additive, .plus => some .add
  | additive, .minus => some .subtract
  | multiplicative, .multiply => some .multiply
  | multiplicative, .divide => some .divide
  | multiplicative, .modulo => some .modulo
  | _, _ => none

end Category

/-- The value that a literal token stands for. -/
inductive Denotes : Token → Value → Prop
  | integer (i : Int64) : Denotes (.integer i) (.integer i)
  | decimal {text : String} {d : Decimal} (h : Decimal.parse text = .ok d) :
      Denotes (.decimal text) (.decimal d)
  | string (s : String) : Denotes (.string s) (.string s)
  | boolean (b : Bool) : Denotes (.boolean b) (.boolean b)
  | null : Denotes .null .null

/-- The tokens that derive an expression of a category. -/
inductive Derives : Category → List Token → Expr → Prop
  | literal {token value} (h : Denotes token value) : Derives .primary [token] (.literal value)
  | name (name) : Derives .primary [.identifier name] (.ident name)
  | group {ts e} (h : Derives .or ts e) :
      Derives .primary (.leftParen :: (ts ++ [.rightParen])) e
  | primary {ts e} (h : Derives .primary ts e) : Derives .navigation ts e
  | property {ts e} (h : Derives .navigation ts e) (name) :
      Derives .navigation (ts ++ [.dot, .identifier name]) (.property e name)
  | index {ts us e i} (h : Derives .navigation ts e) (hi : Derives .or us i) :
      Derives .navigation (ts ++ .leftBracket :: (us ++ [.rightBracket])) (.index e i)
  | navigation {ts e} (h : Derives .navigation ts e) : Derives .unary ts e
  | negate {ts e} (h : Derives .unary ts e) : Derives .unary (.minus :: ts) (.unary .negate e)
  | not {ts e} (h : Derives .unary ts e) : Derives .unary (.not :: ts) (.unary .not e)
  | operand {c d ts e} (hc : c.operand? = some d) (h : Derives d ts e) : Derives c ts e
  | join {c d ts us token op a b} (hc : c.operand? = some d) (ho : c.operator? token = some op)
      (ha : Derives c ts a) (hb : Derives d us b) :
      Derives c (ts ++ token :: us) (.binary op a b)

/-- The tokens of a name, possibly in parentheses. -/
inductive Named : List Token → String → Prop
  | bare (name) : Named [.identifier name] name
  | group {ts name} (h : Named ts name) : Named (.leftParen :: (ts ++ [.rightParen])) name

/-- The tokens that derive a statement. -/
inductive Sentence : List Token → Statement → Prop
  | expr {ts e} (h : Derives .or ts e) : Sentence ts (.expr e)
  | assign {ts us name e} (hn : Named ts name) (h : Derives .or us e) :
      Sentence (ts ++ .assign :: us) (.assign name e)

end Grammar

end DynamicSql

import DynamicSql.Proofs.Expr.Dotted
import DynamicSql.Proofs.Navigation.Steps
import DynamicSql.Rendering.Context

/-!
# Expressions and paths agree

For a mapping as the parameter, a dotted text finds the same value as an expression and
as a path.  Only where there is nothing to find do they differ: null indexed by a
position is null in an expression and an error on a path.
-/

namespace DynamicSql

open Navigation (getProperty getStep get getPath indexInto isTraversable)

/-! ## What an outcome has found -/

/-- The value of an outcome, if there is one and it is not null. -/
def found? {ε : Type} : Except ε Value → Option Value
  | .ok value => if value.isNull then none else some value
  | .error _ => none

section Found

variable {ε ε' : Type} {value : Value}

theorem found?_eq_some {outcome : Except ε Value} :
    found? outcome = some value ↔ outcome = .ok value ∧ value.isNull = false := by
  cases outcome with
  | error e => simp [found?]
  | ok found =>
    rw [found?, Except.ok.injEq]
    by_cases hnull : found.isNull = true
    · rw [if_pos hnull]
      constructor
      · intro h
        cases h
      · rintro ⟨rfl, hvalue⟩
        rw [hnull] at hvalue
        cases hvalue
    · rw [if_neg hnull, Option.some.injEq]
      constructor
      · rintro rfl
        exact ⟨rfl, by simpa using hnull⟩
      · exact And.left

theorem found?_mapError (outcome : Except ε Value) (f : ε → ε') :
    found? (outcome.mapError f) = found? outcome := by
  cases outcome <;> rfl

/-- Nothing is found behind null, so going on is going on from what was found. -/
theorem found?_bind (outcome : Except ε Value) {next : Value → Except ε Value}
    (hnull : found? (next .null) = none) :
    found? (outcome >>= next) = (found? outcome).bind fun value => found? (next value) := by
  cases outcome with
  | error e => rfl
  | ok v => cases v <;> first | exact hnull | rfl

end Found

theorem Navigation.found?_get_cons (heap : Heap) (value : Value) (step next : Path.Step)
    (rest : List Path.Step) :
    found? (get heap value (step :: next :: rest)) =
      (found? (getStep heap value step)).bind fun child =>
        if isTraversable child then found? (get heap child (next :: rest)) else none := by
  rw [get, found?_bind _ rfl]
  refine congrArg (Option.bind _) (funext fun child => ?_)
  -- a path ends at null and fails at a scalar, so that nothing is found there
  cases child <;> rfl

/-! ## Hops in expressions -/

namespace Hop

variable (heap : Heap) (hop : Hop)

/-- The value that an expression finds at the position of a hop. -/
def item (value : Value) : Except ExprError Value :=
  match hop.position with
  | none => .ok value
  | some n => value.at heap (.integer (Int64.ofInt n))

/-- The value that an expression finds at a hop. -/
def read (base : Value) : Except ExprError Value := do
  let value ← base.property heap hop.name
  hop.item heap value

/-- The value that an expression finds along hops. -/
def follow : List Hop → Value → Except ExprError Value
  | [], value => .ok value
  | hop :: rest, value => do
    let next ← hop.read heap value
    follow rest next

theorem eval_bracket (lookup : Lookup) (e : Expr) :
    (hop.bracket e).eval heap lookup = e.eval heap lookup >>= hop.item heap := by
  unfold bracket item
  cases hop.position with
  | none => exact (bind_pure _).symm
  | some n => rfl

theorem eval_hops (lookup : Lookup) (rest : List Hop) (e : Expr) :
    (rest.foldl (fun base hop => hop.bracket (.property base hop.name)) e).eval heap lookup =
      e.eval heap lookup >>= follow heap rest := by
  induction rest generalizing e with
  | nil => exact (bind_pure _).symm
  | cons hop rest ih =>
    rw [List.foldl_cons, ih, eval_bracket]
    show ((e.eval heap lookup >>= fun base => base.property heap hop.name) >>= _) >>= _ = _
    rw [bind_assoc, bind_assoc]
    refine congrArg (e.eval heap lookup >>= ·) (funext fun base => ?_)
    rw [follow, read, bind_assoc]

/-! ## Hops along paths -/

theorem steps_name {name : String} (h : isName name = true) :
    Path.steps name = [⟨name, name, none⟩] := by
  have hbare : ∀ n : Nat, none = some n → (n : Int) ≤ int64Greatest := by
    intro n hn
    cases hn
  have htext := Dotted.steps_text ⟨⟨name, none, h, hbare⟩, []⟩
  simpa [Dotted.text, Dotted.hops, Hop.step, Hop.chars, Hop.bracketChars] using htext

/-- A property in an expression is the property that a path reads, unless the base is null. -/
theorem property_eq {name : String} (h : isName name = true) {base : Value}
    (hbase : base.isNull = false) :
    base.property heap name = (getProperty heap base name).mapError .access := by
  have hpath : getPath heap base name = getProperty heap base name := by
    rw [getPath, steps_name h]
    rfl
  cases base with
  | null => cases hbase
  | _ => simp only [Value.property, hpath]

theorem toInt_ofInt {n : Nat} (hn : (n : Int) ≤ int64Greatest) : (Int64.ofInt n).toInt = n := by
  unfold int64Greatest at hn
  exact Int64.toInt_ofInt_of_le (by omega) (by omega)

theorem text_integer {n : Nat} (hn : (n : Int) ≤ int64Greatest) :
    heap.text (.integer (Int64.ofInt n)) = String.ofList (Text.natText n) := by
  show String.ofList (Text.intText (Int64.ofInt n).toInt) = _
  rw [toInt_ofInt hn, Text.intText, if_neg (by omega), Int.natAbs_natCast]

theorem position?_natText {n : Nat} (hn : (n : Int) ≤ int64Greatest) :
    Navigation.position? (String.ofList (Text.natText n)) = some n := by
  unfold Navigation.position?
  rw [String.toList_ofList]
  refine Text.readBelow_trim_natText (Nat.lt_of_le_of_lt (Int.ofNat_le.1 hn) (by decide))

/-- What an expression finds at a position is what a path finds there. -/
theorem found?_at_integer {n : Nat} (hn : (n : Int) ≤ int64Greatest) (name : String)
    (value : Value) :
    found? (value.at heap (.integer (Int64.ofInt n))) =
      found? (indexInto value (String.ofList (Text.natText n)) name) := by
  unfold Value.at indexInto
  cases value with
  | list items =>
    have hpos : (0 : Int) ≤ n := Int.natCast_nonneg n
    simp only [toInt_ofInt hn, if_pos hpos, Int.toNat_natCast, position?_natText hn,
      Option.bind_some]
    cases items[n]? <;> rfl
  | map entries =>
    simp only [text_integer heap hn]
    rfl
  -- null is null at every position in an expression, which is not to find anything
  | _ => rfl

/-- What an expression finds at a hop is what a path finds at its step. -/
theorem found?_read {base : Value} (hbase : base.isNull = false) :
    found? (hop.read heap base) = found? (getStep heap base hop.step) := by
  have hname : hop.name ≠ "" := by
    intro h
    have hnamed := hop.named
    rw [h] at hnamed
    cases hnamed
  have hnull : found? (hop.item heap .null) = none := by
    unfold item
    cases hop.position <;> rfl
  rw [read, found?_bind _ hnull, property_eq heap hop.named hbase, found?_mapError]
  unfold item getStep step Navigation.indexed
  cases hposition : hop.position with
  | none =>
    cases hvalue : getProperty heap base hop.name with
    | error error => simp [found?]
    | ok value => cases value <;> rfl
  | some n =>
    simp only [Option.map_some, if_neg hname]
    rw [found?_bind _ rfl]
    exact congrArg (Option.bind _) (funext (found?_at_integer heap (hop.inRange n hposition) _))

theorem follow_null (hops : List Hop) : follow heap hops .null = .ok .null := by
  induction hops with
  | nil => rfl
  | cons hop rest ih =>
    have hread : hop.read heap .null = .ok .null := by
      unfold read item
      cases hop.position <;> rfl
    rw [follow, hread]
    exact ih

/-- An expression finds nothing behind null and scalars. -/
theorem found?_follow_of_not_traversable {value : Value} (h : isTraversable value = false)
    (rest : List Hop) : found? (follow heap (hop :: rest) value) = none := by
  cases hnull : value.isNull with
  | true =>
    have hvalue : value = .null := by
      cases value <;> first | rfl | cases hnull
    rw [hvalue, follow_null]
    rfl
  | false =>
    have hproperty : ∃ error, getProperty heap value hop.name = .error error := by
      cases value <;> first | exact ⟨_, rfl⟩ | cases h
    obtain ⟨error, herror⟩ := hproperty
    rw [follow, read, property_eq heap hop.named hnull, herror]
    rfl

/-- What an expression finds along hops is what a path finds along their steps. -/
theorem found?_follow {base : Value} (hbase : isTraversable base = true) (rest : List Hop) :
    found? (follow heap (hop :: rest) base) =
      found? (get heap base ((hop :: rest).map step)) := by
  induction rest generalizing hop base with
  | nil =>
    have hfollow : follow heap [hop] base = hop.read heap base := bind_pure _
    rw [hfollow, found?_read heap hop (Navigation.isNull_of_isTraversable hbase)]
    rfl
  | cons next rest ih =>
    have hnull : found? (follow heap (next :: rest) .null) = none := by
      rw [follow_null]
      rfl
    rw [follow, found?_bind _ hnull,
      found?_read heap hop (Navigation.isNull_of_isTraversable hbase), List.map_cons,
      List.map_cons, Navigation.found?_get_cons]
    refine congrArg (Option.bind _) (funext fun child => ?_)
    cases hchild : isTraversable child with
    | true => exact ih next hchild
    | false => exact found?_follow_of_not_traversable heap next hchild rest

end Hop

/-! ## The parameter -/

/-- An expression that starts where the parameter does follows its hops from there. -/
theorem Dotted.eval_expr (heap : Heap) (dotted : Dotted) {lookup : Lookup} {base : Value}
    (hfirst : lookup dotted.first.name = base.property heap dotted.first.name) :
    dotted.expr.eval heap lookup = Hop.follow heap dotted.hops base := by
  unfold Dotted.expr Dotted.hops
  rw [Hop.eval_hops, Hop.eval_bracket, Expr.eval, hfirst]
  rfl

namespace Context

variable (engine : Engine) (heap : Heap) {entries : Entries Value} {name : String}

/-- In a new context a name stands for its entry in the mapping given as the parameter. -/
theorem resolve_new (hkeys : entries.keys.Nodup) (hparameter : name ≠ parameterName)
    (hdatabaseId : name ≠ databaseIdName) :
    (new engine heap (.map entries)).bindings.resolve heap name =
      .ok ((entries.get? name).getD .null) := by
  have hbound : (new engine heap (.map entries)).bindings.entries.get? name =
      entries.get? name := by
    show Entries.get? (((Entries.ofList entries).put parameterName _).put databaseIdName _) name = _
    rw [Entries.get?_put_of_ne _ _ hdatabaseId, Entries.get?_put_of_ne _ _ hparameter,
      Entries.ofList_eq_self hkeys]
  have hself : (new engine heap (.map entries)).bindings.entries.get? parameterName =
      some (.map entries) := by
    show Entries.get? (((Entries.ofList entries).put parameterName _).put databaseIdName _) _ = _
    rw [Entries.get?_put_of_ne _ _ (by decide), Entries.get?_put_self]
  have hfallback : (new engine heap (.map entries)).bindings.fallback = none := rfl
  unfold Bindings.resolve Bindings.get Entries.contains
  rw [hbound, hself, hfallback]
  cases hvalue : entries.get? name with
  | some value =>
    show (if (!value.isNull || true) = true then Except.ok value else _) = Except.ok value
    rw [Bool.or_true, if_pos rfl]
  | none =>
    -- the name is not bound, and the parameter has no entry for it either
    show Except.ok ((entries.get? name).getD .null) = _
    rw [hvalue]

/-- **Expressions and paths find the same.**  For a mapping as the parameter, whose names
are distinct as in every mapping, evaluating a dotted text in a new context gives a value
other than null if and only if reading the text as a path does, and it is the same value. -/
theorem evaluate_dotted (hengine : engine.evaluator = .reference) (hkeys : entries.keys.Nodup)
    (dotted : Dotted) (hparameter : dotted.first.name ≠ parameterName)
    (hdatabaseId : dotted.first.name ≠ databaseIdName) (value : Value) :
    (((new engine heap (.map entries)).evaluate engine heap dotted.text).1 = .ok value ∧
        value.isNull = false) ↔
      (getPath heap (.map entries) dotted.text = .ok value ∧ value.isNull = false) := by
  rw [← found?_eq_some, ← found?_eq_some]
  have hfirst : (new engine heap (.map entries)).bindings.resolve heap dotted.first.name =
      (Value.map entries).property heap dotted.first.name := by
    rw [resolve_new engine heap hkeys hparameter hdatabaseId,
      Hop.property_eq heap dotted.first.named rfl]
    rfl
  have hexpr : ((new engine heap (.map entries)).evaluate engine heap dotted.text).1 =
      (Hop.follow heap dotted.hops (.map entries)).mapError .expr := by
    unfold evaluate
    rw [hengine, Evaluator.reference, dotted.parse_text]
    exact congrArg (Except.mapError _) (dotted.eval_expr heap hfirst)
  have hpath : getPath heap (.map entries) dotted.text =
      get heap (.map entries) (dotted.hops.map Hop.step) := by
    rw [getPath, dotted.steps_text]
  rw [hexpr, hpath, found?_mapError]
  exact iff_of_eq (congrArg (· = some value) (Hop.found?_follow heap dotted.first rfl dotted.rest))

/-- The article of the first line of an order. -/
def firstArticle : Dotted where
  first := ⟨"order", none, by decide, nofun⟩
  rest := [⟨"lines", some 0, by decide, by decide⟩, ⟨"article", none, by decide, nofun⟩]

/-- An order with one line. -/
def orders (article : Value) : Entries Value :=
  [("order", .map [("lines", .list [.map [("article", article)]])])]

/-- The article is found as an expression because it is found at the path. -/
theorem evaluate_dotted_article :
    (Engine.new .default).evaluator = .reference ∧ (orders (.string "A")).keys.Nodup ∧
    firstArticle.first.name ≠ parameterName ∧ firstArticle.first.name ≠ databaseIdName ∧
    firstArticle.text = "order.lines[0].article" ∧
    ((new (.new .default) .empty (.map (orders (.string "A")))).evaluate (.new .default) .empty
      "order.lines[0].article").1 = .ok (.string "A") := by
  have hkeys : (orders (.string "A")).keys.Nodup := by decide
  have hparameter : firstArticle.first.name ≠ parameterName := by decide
  have hdatabaseId : firstArticle.first.name ≠ databaseIdName := by decide
  have htext : firstArticle.text = "order.lines[0].article" := by decide
  have hpath : getPath .empty (.map (orders (.string "A"))) firstArticle.text =
      .ok (.string "A") := by
    rw [getPath, Dotted.steps_text]
    rfl
  have heval := (evaluate_dotted (.new .default) .empty rfl hkeys firstArticle hparameter
    hdatabaseId (.string "A")).2 ⟨hpath, rfl⟩
  rw [htext] at heval
  exact ⟨rfl, hkeys, hparameter, hdatabaseId, htext, heval.1⟩

end Context

end DynamicSql

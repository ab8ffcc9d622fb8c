import DynamicSql.Heap.Integers
import DynamicSql.Proofs.Decimal.Order
import DynamicSql.Value.Equality
import DynamicSql.Walk
import Mathlib.Data.List.Forall2

/-!
# Conversions to integers accept what equals an integer

A value is converted to a 64-bit integer exactly if it equals that integer
(`toInt64?_eq_some_iff`): a decimal does whatever its places, as long as nothing stands behind
the point and the number fits.  Options and lists only pass this on, element by element, so the
same holds for them at any depth (`convert_eq_ok_iff`), and the first element that is not
converted decides over the error.
-/

namespace DynamicSql

/-! ## Decimals that are integers -/

namespace Decimal

/-- The integer of a decimal is the one that its coefficient is with as many zeros. -/
theorem toInt?_eq_some_iff {d : Decimal} {n : Int} :
    d.toInt? = some n ↔ d.signed = n * tenPow d.scale := by
  have hpos : (0 : Int) < tenPow d.scale := by exact_mod_cast tenPow_pos d.scale
  have hdivides : d.coefficient % tenPow d.scale = 0 ↔
      ∃ q : Nat, d.coefficient = q * tenPow d.scale := by
    rw [← Nat.dvd_iff_mod_eq_zero]
    exact dvd_iff_exists_eq_mul_left
  unfold toInt? signed
  by_cases h : d.coefficient % tenPow d.scale = 0
  · obtain ⟨q, hq⟩ := hdivides.1 h
    have hquotient : d.coefficient / tenPow d.scale = q := by
      rw [hq, Nat.mul_div_cancel _ (tenPow_pos d.scale)]
    rw [if_pos h, hquotient, hq, Option.some.injEq]
    push_cast
    cases d.negative with
    | true =>
      simp only [if_true, ← neg_mul]
      exact (mul_left_inj' hpos.ne').symm
    | false =>
      simp only [Bool.false_eq_true, if_false]
      exact (mul_left_inj' hpos.ne').symm
  · rw [if_neg h]
    constructor
    · intro hnone
      cases hnone
    · intro hsigned
      refine absurd (hdivides.2 ⟨n.natAbs, ?_⟩) h
      have habs := congrArg Int.natAbs hsigned
      rw [Int.natAbs_mul, Int.natAbs_natCast] at habs
      rw [← habs]
      cases d.negative <;> simp

end Decimal

namespace Conversion

/-! ## Integers -/

/-- A value is converted to the 64-bit integer that it equals. -/
theorem toInt64?_eq_some_iff {value : Value} {i : Int64} :
    toInt64? value = some i ↔ value.same (.integer i) = true := by
  cases value with
  | integer j => simp [toInt64?, Value.same]
  | decimal d =>
    have hscale : (Decimal.ofInt64 i).scale = 0 := rfl
    have hone : (d.signed * tenPow 0 : Int) = d.signed := Int.mul_one d.signed
    rw [toInt64?, Option.bind_eq_some_iff, Value.same, Decimal.same, hscale, beq_iff_eq, hone,
      Decimal.signed_ofInt64]
    constructor
    · rintro ⟨n, hn, hfits⟩
      rw [int64?_eq_some_iff] at hfits
      rw [hfits, Decimal.toInt?_eq_some_iff.1 hn]
    · intro heq
      exact ⟨i.toInt, Decimal.toInt?_eq_some_iff.2 heq.symm, int64?_toInt i⟩
  | _ => simp [toInt64?, Value.same]

/-- A value is converted to the 32-bit integer that it equals. -/
theorem toInt32?_eq_some_iff {value : Value} {i : Int64} :
    toInt32? value = some i ↔ Fits32 i ∧ value.same (.integer i) = true := by
  rw [← toInt64?_eq_some_iff, toInt32?]
  cases toInt64? value with
  | none => simp
  | some j =>
    by_cases hfits : Fits32 j
    · have hrange : int32Least ≤ j.toInt ∧ j.toInt ≤ int32Greatest := hfits
      simp only [if_pos hrange, Option.some.injEq]
      constructor
      · rintro rfl
        exact ⟨hfits, rfl⟩
      · exact And.right
    · have hrange : ¬ (int32Least ≤ j.toInt ∧ j.toInt ≤ int32Greatest) := hfits
      simp only [if_neg hrange, Option.some.injEq]
      constructor
      · intro h
        cases h
      · rintro ⟨hi, rfl⟩
        exact absurd hi hfits

/-! ## Lists -/

section

variable {convert : Value → Except AccessError Value} {items converted : List Value}
  {error : AccessError}

/-- A list is converted element by element. -/
theorem convertAll_eq_ok_iff : convertAll convert items = .ok converted ↔
    List.Forall₂ (fun item made => convert item = .ok made) items converted := by
  induction items generalizing converted with
  | nil => simp [convertAll, eq_comm]
  | cons item rest ih =>
    rw [convertAll, List.forall₂_cons_left_iff]
    cases hitem : convert item with
    | error error => simp [bind, Except.bind]
    | ok made =>
      cases hrest : convertAll convert rest with
      | error error =>
        simp only [bind, Except.bind, reduceCtorEq, false_iff, not_exists, not_and]
        rintro first more - hmore
        rw [← ih, hrest] at hmore
        cases hmore
      | ok mades =>
        simp only [bind, Except.bind, Except.ok.injEq]
        constructor
        · rintro rfl
          exact ⟨made, mades, rfl, ih.1 hrest, rfl⟩
        · rintro ⟨first, more, rfl, hmore, rfl⟩
          rw [← ih, hrest, Except.ok.injEq] at hmore
          rw [hmore]

/-- The first element that is not converted ends the conversion of a list. -/
theorem convertAll_eq_error_iff : convertAll convert items = .error error ↔
    ∃ item, WalkReaches (fun item => ∃ made, convert item = .ok made) items item ∧
      convert item = .error error := by
  induction items with
  | nil => simp [convertAll]
  | cons first rest ih =>
    rw [convertAll]
    cases hfirst : convert first with
    | error cause =>
      simp only [bind, Except.bind, WalkReaches.cons_iff, Except.error.injEq]
      constructor
      · rintro rfl
        exact ⟨first, .inl rfl, hfirst⟩
      · rintro ⟨item, rfl | ⟨⟨made, hmade⟩, -⟩, hitem⟩
        · rw [hfirst, Except.error.injEq] at hitem
          exact hitem
        · rw [hfirst] at hmade
          cases hmade
    | ok made =>
      have hpasses : ∃ made, convert first = .ok made := ⟨made, hfirst⟩
      have hreach : (∃ item, WalkReaches (fun item => ∃ made, convert item = .ok made)
          (first :: rest) item ∧ convert item = .error error) ↔ convertAll convert rest =
            .error error := by
        rw [ih]
        constructor
        · rintro ⟨item, hitem, herror⟩
          rcases WalkReaches.cons_iff.1 hitem with rfl | ⟨-, hitem⟩
          · rw [hfirst] at herror
            cases herror
          · exact ⟨item, hitem, herror⟩
        · rintro ⟨item, hitem, herror⟩
          exact ⟨item, WalkReaches.cons_iff.2 (.inr ⟨hpasses, hitem⟩), herror⟩
      rw [hreach]
      cases convertAll convert rest <;> simp [bind, Except.bind]

end

end Conversion

/-- Lists are equal item by item. -/
theorem Value.forall₂_and_same_iff {p : Value → Prop} {items others : List Value} :
    List.Forall₂ (fun item other => p other ∧ item.same other = true) items others ↔
      (∀ other ∈ others, p other) ∧ sameItems items others = true := by
  induction items generalizing others with
  | nil => cases others <;> simp [sameItems]
  | cons item rest ih => cases others <;> simp [sameItems, ih, and_assoc, and_left_comm]

namespace Heap

open Conversion (OfIntegers Yields Fits32 toInt64? toInt32?)

variable {heap : Heap} {locked : Option ObjectId} {inner element : Conversion} {value : Value}

/-! ## One conversion -/

theorem convert_long : heap.convert locked .long value =
    match toInt64? value with
    | some i => .ok (.integer i)
    | none => .error (.mismatch "long" (heap.kind value)) := by
  simp only [convert, Conversion.apply, Conversion.convert?]
  cases toInt64? value <;> rfl

theorem convert_int : heap.convert locked .int value =
    match toInt32? value with
    | some i => .ok (.integer i)
    | none => .error (.mismatch "int" (heap.kind value)) := by
  simp only [convert, Conversion.apply, Conversion.convert?]
  cases toInt32? value <;> rfl

@[simp] theorem convert_optional_null :
    heap.convert locked (.optional inner) .null = .ok .null := rfl

/-- What is not null is converted as if it were not optional. -/
theorem convert_optional (h : value ≠ .null) :
    heap.convert locked (.optional inner) value = heap.convert locked inner value := by
  cases value with
  | null => exact absurd rfl h
  | _ => rfl

theorem convert_list (items : List Value) : heap.convert locked (.list element) (.list items) =
    (Conversion.convertAll (heap.convert locked element) items).map .list := rfl

/-- Only lists are converted to lists. -/
theorem convert_list_of_ne (h : ∀ items, value ≠ .list items) :
    heap.convert locked (.list element) value = .error (.mismatch "list" (heap.kind value)) := by
  cases value with
  | list items => exact absurd rfl (h items)
  | _ => rfl

theorem convert_list_eq_ok_iff {items : List Value} {result : Value} :
    heap.convert locked (.list element) (.list items) = .ok result ↔
      ∃ converted, result = .list converted ∧
        List.Forall₂ (fun item made => heap.convert locked element item = .ok made) items
          converted := by
  rw [convert_list]
  cases hall : Conversion.convertAll (heap.convert locked element) items with
  | error error =>
    simp only [Except.map, reduceCtorEq, false_iff, not_exists, not_and]
    intro converted _ hconverted
    rw [← Conversion.convertAll_eq_ok_iff, hall] at hconverted
    cases hconverted
  | ok mades =>
    simp only [Except.map, Except.ok.injEq, ← Conversion.convertAll_eq_ok_iff, hall]
    constructor
    · rintro rfl
      exact ⟨mades, rfl, rfl⟩
    · rintro ⟨converted, rfl, rfl⟩
      rfl

theorem convert_list_eq_error_iff {items : List Value} {error : AccessError} :
    heap.convert locked (.list element) (.list items) = .error error ↔
      ∃ item, WalkReaches (heap.Converts locked element) items item ∧
        heap.convert locked element item = .error error := by
  refine Iff.trans ?_ Conversion.convertAll_eq_error_iff
  rw [convert_list]
  cases Conversion.convertAll (heap.convert locked element) items <;> simp [Except.map]

/-! ## Conversions to integers -/

theorem convert_long_eq_ok_iff {i : Int64} :
    heap.convert locked .long value = .ok (.integer i) ↔ value.same (.integer i) = true := by
  rw [convert_long, ← Conversion.toInt64?_eq_some_iff]
  cases toInt64? value <;> simp

theorem convert_int_eq_ok_iff {i : Int64} :
    heap.convert locked .int value = .ok (.integer i) ↔
      Fits32 i ∧ value.same (.integer i) = true := by
  rw [convert_int, ← Conversion.toInt32?_eq_some_iff]
  cases toInt32? value <;> simp

section

variable (heap locked value)

/-- What does not become an integer is reported with the kind that it has. -/
theorem convert_long_cases : (∃ i, heap.convert locked .long value = .ok (.integer i)) ∨
    heap.convert locked .long value = .error (.mismatch "long" (heap.kind value)) := by
  rw [convert_long]
  cases toInt64? value <;> simp

theorem convert_int_cases : (∃ i, heap.convert locked .int value = .ok (.integer i)) ∨
    heap.convert locked .int value = .error (.mismatch "int" (heap.kind value)) := by
  rw [convert_int]
  cases toInt32? value <;> simp

end

theorem convert_long_yields_iff {result : Value} :
    heap.convert locked .long value = .ok result ↔
      Conversion.long.Yields result ∧ value.same result = true := by
  constructor
  · intro hresult
    rcases convert_long_cases heap locked value with ⟨i, hi⟩ | herror
    · rw [hi, Except.ok.injEq] at hresult
      subst hresult
      exact ⟨.long i, convert_long_eq_ok_iff.1 hi⟩
    · rw [herror] at hresult
      cases hresult
  · rintro ⟨⟨i⟩, hsame⟩
    exact convert_long_eq_ok_iff.2 hsame

theorem convert_int_yields_iff {result : Value} :
    heap.convert locked .int value = .ok result ↔
      Conversion.int.Yields result ∧ value.same result = true := by
  constructor
  · intro hresult
    rcases convert_int_cases heap locked value with ⟨i, hi⟩ | herror
    · rw [hi, Except.ok.injEq] at hresult
      subst hresult
      obtain ⟨hfits, hsame⟩ := convert_int_eq_ok_iff.1 hi
      exact ⟨.int hfits, hsame⟩
    · rw [herror] at hresult
      cases hresult
  · rintro ⟨hyields, hsame⟩
    cases hyields with
    | int hfits => exact convert_int_eq_ok_iff.2 ⟨hfits, hsame⟩

/-- An option has a form where its conversion has one, and in null. -/
theorem convert_optional_yields_iff {result : Value}
    (hinner : heap.convert locked inner value = .ok result ↔
      inner.Yields result ∧ value.same result = true) :
    heap.convert locked (.optional inner) value = .ok result ↔
      (Conversion.optional inner).Yields result ∧ value.same result = true := by
  by_cases hnull : value = .null
  · subst hnull
    rw [convert_optional_null, Except.ok.injEq]
    constructor
    · rintro rfl
      exact ⟨.nothing _, rfl⟩
    · rintro ⟨-, hsame⟩
      cases result <;> simp_all [Value.same]
  · rw [convert_optional hnull, hinner]
    constructor
    · rintro ⟨hyields, hsame⟩
      exact ⟨.present hyields, hsame⟩
    · rintro ⟨hyields, hsame⟩
      cases hyields with
      | nothing => cases value <;> simp_all [Value.same]
      | present hyields => exact ⟨hyields, hsame⟩

/-- A list has a form where the conversion of its elements has one. -/
theorem convert_list_yields_iff {result : Value}
    (helement : ∀ {item made : Value}, heap.convert locked element item = .ok made ↔
      element.Yields made ∧ item.same made = true) :
    heap.convert locked (.list element) value = .ok result ↔
      (Conversion.list element).Yields result ∧ value.same result = true := by
  cases value with
  | list items =>
    rw [convert_list_eq_ok_iff]
    simp only [helement, Value.forall₂_and_same_iff]
    constructor
    · rintro ⟨converted, rfl, hyields, hsame⟩
      exact ⟨.list hyields, hsame⟩
    · rintro ⟨hyields, hsame⟩
      cases hyields with
      | list hyields => exact ⟨_, rfl, hyields, hsame⟩
  | _ =>
    rw [convert_list_of_ne (by simp)]
    constructor
    · intro hresult
      cases hresult
    · rintro ⟨hyields, hsame⟩
      cases hyields
      simp [Value.same] at hsame

/-- **What a conversion to integers results in is the value of its form that equals the given
one.** -/
theorem convert_eq_ok_iff {conversion : Conversion} (h : conversion.OfIntegers)
    {result : Value} : heap.convert locked conversion value = .ok result ↔
      conversion.Yields result ∧ value.same result = true := by
  induction h generalizing value result with
  | long => exact convert_long_yields_iff
  | int => exact convert_int_yields_iff
  | optional _ ih => exact convert_optional_yields_iff ih
  | list _ ih => exact convert_list_yields_iff ih

/-- A list is converted if and only if every element is. -/
theorem converts_list_iff {items : List Value} :
    heap.Converts locked (.list element) (.list items) ↔
      ∀ item ∈ items, heap.Converts locked element item := by
  constructor
  · rintro ⟨result, hresult⟩
    rcases WalkReaches.all_or_first (heap.Converts locked element) items with hall | hfirst
    · exact hall
    · obtain ⟨item, hreach, hfails⟩ := hfirst
      cases hitem : heap.convert locked element item with
      | ok made => exact absurd ⟨made, hitem⟩ hfails
      | error error =>
        rw [convert_list_eq_error_iff.2 ⟨item, hreach, hitem⟩] at hresult
        cases hresult
  · intro hall
    cases hresult : heap.convert locked (.list element) (.list items) with
    | ok result => exact ⟨result, hresult⟩
    | error error =>
      obtain ⟨item, hreach, hitem⟩ := convert_list_eq_error_iff.1 hresult
      obtain ⟨made, hmade⟩ := hall item hreach.mem
      rw [hmade] at hitem
      cases hitem

/-- **Conversions to integers accept exactly what equals an integer.**  A value becomes the
64-bit or 32-bit integer that it equals, and everything else is a mismatch of its kind.  What
options and lists of integers result in, at any depth, is the value of their form that equals
the given one; a list is converted exactly if all its elements are, one by one and in order,
and otherwise fails with the error of the first that is not. -/
theorem integer_conversions (heap : Heap) (locked : Option ObjectId) :
    (∀ (value : Value) (i : Int64),
      (heap.convert locked .long value = .ok (.integer i) ↔ value.same (.integer i) = true) ∧
      (heap.convert locked .int value = .ok (.integer i) ↔
        Fits32 i ∧ value.same (.integer i) = true)) ∧
    (∀ scalar : Conversion, scalar = .long ∨ scalar = .int → ∀ value : Value,
      (∃ i, heap.convert locked scalar value = .ok (.integer i)) ∨
        heap.convert locked scalar value =
          .error (.mismatch scalar.expected (heap.kind value))) ∧
    (∀ conversion : Conversion, conversion.OfIntegers → ∀ value result : Value,
      heap.convert locked conversion value = .ok result ↔
        conversion.Yields result ∧ value.same result = true) ∧
    (∀ (inner : Conversion) (value : Value), heap.convert locked (.optional inner) value =
      if value.isNull then .ok .null else heap.convert locked inner value) ∧
    (∀ (element : Conversion) (items : List Value),
      (heap.Converts locked (.list element) (.list items) ↔
        ∀ item ∈ items, heap.Converts locked element item) ∧
      (∀ result, heap.convert locked (.list element) (.list items) = .ok result ↔
        ∃ converted, result = .list converted ∧
          List.Forall₂ (fun item made => heap.convert locked element item = .ok made) items
            converted) ∧
      (∀ error, heap.convert locked (.list element) (.list items) = .error error ↔
        ∃ item, WalkReaches (heap.Converts locked element) items item ∧
          heap.convert locked element item = .error error)) ∧
    (∀ (element : Conversion) (value : Value), (∀ items, value ≠ .list items) →
      heap.convert locked (.list element) value =
        .error (.mismatch "list" (heap.kind value))) := by
  refine ⟨?equal, ?mismatch, ?forms, ?options, ?lists, ?others⟩
  case equal =>
    intro value i
    exact ⟨convert_long_eq_ok_iff, convert_int_eq_ok_iff⟩
  case mismatch =>
    rintro scalar (rfl | rfl) value
    · exact convert_long_cases _ _ _
    · exact convert_int_cases _ _ _
  case forms =>
    intro conversion h value result
    exact convert_eq_ok_iff h
  case options =>
    intro inner value
    by_cases hnull : value.isNull = true
    · rw [if_pos hnull, Value.isNull_iff.1 hnull, convert_optional_null]
    · rw [if_neg hnull, convert_optional fun h => hnull (Value.isNull_iff.2 h)]
  case lists =>
    intro element items
    refine ⟨converts_list_iff, fun result => ?_, fun error => ?_⟩
    · exact convert_list_eq_ok_iff
    · exact convert_list_eq_error_iff
  case others =>
    intro element value h
    exact convert_list_of_ne h

/-- Lists of 32-bit integers, each of which may be missing. -/
def optionalRows : Conversion := .list (.optional (.list .int))

/-- Three with a place is three, also in a row of a list; the first number beyond 32 bits ends
the conversion, and a text is neither an integer nor a list. -/
theorem integer_conversions_rows :
    optionalRows.OfIntegers ∧ optionalRows.Yields (.list [.list [.integer 3], .null]) ∧
      Heap.empty.convert none optionalRows (.list [.list [.decimal (.tenths 30)], .null]) =
        .ok (.list [.list [.integer 3], .null]) ∧
      Heap.empty.convert none (.list .int)
          (.list [.integer 1, .integer 2147483648, .string "x"]) =
        .error (.mismatch "int" "integer") ∧
      (Conversion.long = .long ∨ Conversion.long = .int) ∧
      Heap.empty.convert none .long (.string "x") = .error (.mismatch "long" "string") ∧
      (∀ items, Value.string "x" ≠ .list items) ∧
      Heap.empty.convert none (.list .long) (.string "x") = .error (.mismatch "list" "string") := by
  obtain ⟨hequal, hmismatch, hforms, -, hlists, hothers⟩ := integer_conversions .empty none
  have hrows : optionalRows.OfIntegers := .list (.optional (.list .int))
  have hyields : optionalRows.Yields (.list [.list [.integer 3], .null]) := by
    refine .list fun item hitem => ?_
    simp only [List.mem_cons, List.not_mem_nil, or_false] at hitem
    rcases hitem with rfl | rfl
    · refine .present (.list fun item hitem => ?_)
      obtain rfl := List.mem_singleton.1 hitem
      exact .int (by decide)
    · exact .nothing _
  have hsame : (Value.list [.list [.decimal (.tenths 30)], .null]).same
      (.list [.list [.integer 3], .null]) = true := by decide
  have hone : Heap.empty.Converts none .int (.integer 1) :=
    ⟨.integer 1, (hequal (.integer 1) 1).2.2 ⟨by decide, by decide⟩⟩
  have htext : ∀ items, Value.string "x" ≠ .list items := by simp
  refine ⟨hrows, hyields, (hforms _ hrows _ _).2 ⟨hyields, hsame⟩, ?_, .inl rfl, ?_, htext,
    hothers .long _ htext⟩
  · refine ((hlists .int _).2.2 _).2 ⟨.integer 2147483648, ?_, rfl⟩
    simp [hone]
  · rcases hmismatch .long (.inl rfl) (.string "x") with ⟨i, hi⟩ | herror
    · have hnever := (hequal (.string "x") i).1.1 hi
      simp [Value.same] at hnever
    · exact herror

end Heap

end DynamicSql

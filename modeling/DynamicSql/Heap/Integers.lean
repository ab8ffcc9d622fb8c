import DynamicSql.Heap.Access

/-!
# Conversions to integers

Integers of 64 or 32 bits, and options and lists of what is converted to integers, to any
depth: which conversions these are, and what values can come out of them.
-/

namespace DynamicSql.Conversion

/-- The conversions to integers, and to options and lists of these at any depth. -/
inductive OfIntegers : Conversion → Prop
  | long : OfIntegers .long
  | int : OfIntegers .int
  | optional {inner : Conversion} (h : OfIntegers inner) : OfIntegers (.optional inner)
  | list {element : Conversion} (h : OfIntegers element) : OfIntegers (.list element)

/-- Whether an integer has 32 bits. -/
def Fits32 (i : Int64) : Prop := int32Least ≤ i.toInt ∧ i.toInt ≤ int32Greatest

instance (i : Int64) : Decidable (Fits32 i) :=
  inferInstanceAs (Decidable (int32Least ≤ i.toInt ∧ i.toInt ≤ int32Greatest))

/-- The values of the form that a conversion to integers has: nothing is null, and a list
holds elements of its form. -/
inductive Yields : Conversion → Value → Prop
  | long (i : Int64) : Yields .long (.integer i)
  | int {i : Int64} (h : Fits32 i) : Yields .int (.integer i)
  | nothing (inner : Conversion) : Yields (.optional inner) .null
  | present {inner : Conversion} {value : Value} (h : Yields inner value) :
      Yields (.optional inner) value
  | list {element : Conversion} {items : List Value} (h : ∀ item ∈ items, Yields element item) :
      Yields (.list element) (.list items)

end DynamicSql.Conversion

namespace DynamicSql.Heap

/-- Whether a value can be converted. -/
def Converts (heap : Heap) (locked : Option ObjectId) (conversion : Conversion) (value : Value) :
    Prop :=
  ∃ converted, heap.convert locked conversion value = .ok converted

end DynamicSql.Heap

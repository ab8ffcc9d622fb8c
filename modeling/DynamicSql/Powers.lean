/-!
# Powers and the ranges of integers

Powers of two bound the sizes of numbers and powers of ten place the decimal
point.  Integers of the expression language have 64 bits with a sign.
-/

namespace DynamicSql

/-- Two to a power. -/
def twoPow (n : Nat) : Nat := Nat.pow 2 n

/-- Ten to a power. -/
def tenPow (n : Nat) : Nat := Nat.pow 10 n

theorem twoPow_pos (n : Nat) : 0 < twoPow n := Nat.pow_pos (by decide)

theorem tenPow_pos (n : Nat) : 0 < tenPow n := Nat.pow_pos (by decide)

theorem tenPow_add (m n : Nat) : tenPow (m + n) = tenPow m * tenPow n := Nat.pow_add 10 m n

theorem tenPow_le {m n : Nat} (h : m ≤ n) : tenPow m ≤ tenPow n :=
  Nat.pow_le_pow_right (by decide) h

/-- Ten to the power 28 has 94 bits. -/
theorem tenPow_lt {n : Nat} (h : n ≤ 28) : tenPow n < twoPow 96 :=
  Nat.lt_of_le_of_lt (tenPow_le h) (by decide)

/-- The least integer of 64 bits. -/
def int64Least : Int := -9223372036854775808

/-- The greatest integer of 64 bits. -/
def int64Greatest : Int := 9223372036854775807

/-- The least integer of 32 bits. -/
def int32Least : Int := -2147483648

/-- The greatest integer of 32 bits. -/
def int32Greatest : Int := 2147483647

/-- The 64-bit integer that equals an integer, if there is one. -/
def int64? (i : Int) : Option Int64 :=
  if int64Least ≤ i ∧ i ≤ int64Greatest then some (Int64.ofInt i) else none

theorem toInt_of_int64? {i : Int} {n : Int64} (h : int64? i = some n) : n.toInt = i := by
  unfold int64? at h
  split at h
  · rename_i hrange
    cases h
    unfold int64Least int64Greatest at hrange
    exact Int64.toInt_ofInt_of_le (by omega) (by omega)
  · cases h

theorem int64?_toInt (n : Int64) : int64? n.toInt = some n := by
  have hleast : int64Least ≤ n.toInt := Int64.le_toInt n
  have hgreatest : n.toInt ≤ int64Greatest := Int64.toInt_le n
  rw [int64?, if_pos ⟨hleast, hgreatest⟩, Int64.ofInt_toInt]

theorem int64?_eq_some_iff {i : Int} {n : Int64} : int64? i = some n ↔ n.toInt = i := by
  constructor
  · exact toInt_of_int64?
  · rintro rfl
    exact int64?_toInt n

theorem int64?_eq_none_iff {i : Int} :
    int64? i = none ↔ ¬(int64Least ≤ i ∧ i ≤ int64Greatest) := by
  simp [int64?]

end DynamicSql

import DynamicSql.Value.Basic

/-!
# Equality of values

Integers and decimals are equal when they are the same number.  Lists are equal
item by item, mappings when they have the same names with equal values in any
order, objects when they are the same object.
-/

namespace DynamicSql.Value

mutual

/-- Whether two values are equal. -/
def same : Value → Value → Bool
  | null, null => true
  | boolean a, boolean b => a == b
  | integer a, integer b => a == b
  | decimal a, decimal b => a.same b
  | integer a, decimal b => (Decimal.ofInt64 a).same b
  | decimal a, integer b => (Decimal.ofInt64 b).same a
  | string a, string b => a == b
  | list a, list b => sameItems a b
  | map a, map b => a.length == b.length && sameEntries a b
  | object a, object b => a == b
  | _, _ => false

/-- Whether two lists are equal item by item. -/
def sameItems : List Value → List Value → Bool
  | [], [] => true
  | a :: as, b :: bs => same a b && sameItems as bs
  | _, _ => false

/-- Whether every entry has an equal value under its name in the other entries. -/
def sameEntries : List (String × Value) → Entries Value → Bool
  | [], _ => true
  | (name, a) :: rest, other =>
    (match other.get? name with
      | some b => same a b
      | none => false) && sameEntries rest other

end

end DynamicSql.Value

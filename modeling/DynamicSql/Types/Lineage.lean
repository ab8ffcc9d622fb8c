import DynamicSql.Types.Basic

/-!
# Lineages

A nominal type together with its supertypes at any distance.  Types are described
consistently when a name determines the supertypes.
-/

namespace DynamicSql

namespace NominalType

mutual

/-- A type and its supertypes, at any distance. -/
def lineage : NominalType → List NominalType
  | mk name supertypes => mk name supertypes :: lineages supertypes

/-- Several types and their supertypes. -/
def lineages : List NominalType → List NominalType
  | [] => []
  | type :: rest => lineage type ++ lineages rest

end

/-- Whether a name determines the supertypes: of two types with one name, here or among the
supertypes, the one descends from all that the other descends from. -/
def Consistent (types : List NominalType) : Prop :=
  ∀ type ∈ lineages types, ∀ other ∈ lineages types, type.name = other.name →
    ∀ supertype ∈ type.lineage, other.descendsFrom supertype.name = true

instance (types : List NominalType) : Decidable (Consistent types) :=
  inferInstanceAs (Decidable (∀ type ∈ lineages types, ∀ other ∈ lineages types,
    type.name = other.name → ∀ supertype ∈ type.lineage,
      other.descendsFrom supertype.name = true))

end NominalType

/-- The nominal types in a type. -/
def DeclaredType.nominalTypes : DeclaredType → List NominalType
  | list element => element.nominalTypes
  | array component => component.nominalTypes
  | named type => [type]
  | _ => []

end DynamicSql

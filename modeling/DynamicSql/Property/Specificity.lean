import DynamicSql.Property.Declared
import DynamicSql.Types.Lineage

/-!
# How specific getters are

What is said of the getters of a property as a whole, without comparing them one after the
other.  A getter is more specific than another if the raw type of the other accepts its own
and is a different one.
-/

namespace DynamicSql

namespace ClassDecl

/-- The types with which the methods of a class, its ancestors and its interfaces are
declared, and those that stand for type parameters there. -/
def methodTypes (decl : ClassDecl) : List DeclaredType :=
  decl.methodLayers.flatMap fun layer =>
    layer.env.map Prod.snd ++
      layer.decl.methods.flatMap fun method => method.returns :: method.params

/-- Whether a name determines the supertypes of the nominal types in these. -/
def HasConsistentTypes (decl : ClassDecl) : Prop :=
  NominalType.Consistent (decl.methodTypes.flatMap DeclaredType.nominalTypes)

instance (decl : ClassDecl) : Decidable decl.HasConsistentTypes :=
  inferInstanceAs (Decidable (NominalType.Consistent _))

end ClassDecl

namespace Discovered

/-- The raw form of the return type. -/
def rawType (found : Discovered) : DeclaredType := found.method.returns.erased

/-- Whether the name starts with `is`. -/
def startsWithIs (found : Discovered) : Bool := ['i', 's'].isPrefixOf found.method.name.toList

/-- Whether a getter is more specific than another. -/
def IsBelow (found other : Discovered) : Prop :=
  (found.rawType == other.rawType) = false ∧ other.rawType.isAssignableFrom found.rawType = true

/-- Whether two getters cannot be told apart: their raw types are equal and not `boolean`, or
neither of them accepts the other. -/
def Clashes (found other : Discovered) : Prop :=
  ((found.rawType == other.rawType) = true ∧ found.rawType ≠ .boolean) ∨
    (found.rawType.isAssignableFrom other.rawType = false ∧
      other.rawType.isAssignableFrom found.rawType = false)

/-- What makes one of several getters stand for all of them. -/
structure IsMostSpecific (getters : List Discovered) (chosen : Discovered) : Prop where
  /-- No other getter has its raw type, unless that is `boolean`. -/
  alone : ∃ before after, getters = before ++ chosen :: after ∧
    ∀ other ∈ before ++ after, (other.rawType == chosen.rawType) = true →
      chosen.rawType = .boolean
  /-- The raw type of every getter accepts its own. -/
  accepted : ∀ other ∈ getters, other.rawType.isAssignableFrom chosen.rawType = true
  /-- Of boolean getters it is one whose name starts with `is`, if there is any. -/
  preferred : chosen.rawType = .boolean → ∀ other ∈ getters, other.rawType = .boolean →
    other.startsWithIs = true → chosen.startsWithIs = true

/-- Whether of any two getters that clash another one, discovered before the later of them,
is more specific than both. -/
def Settled (getters : List Discovered) : Prop :=
  ∀ earlier later rest, getters = earlier ++ later :: rest →
    ∀ other ∈ earlier, other.Clashes later →
      ∃ below ∈ earlier, below.IsBelow other ∧ below.IsBelow later

end Discovered

end DynamicSql

import DynamicSql.Types.Basic

/-!
# Type variables

What stands in a type for the parameters of the class that declares it, at any depth.
-/

namespace DynamicSql

namespace DeclaredType

/-- Put a type for each type variable. -/
def replace (types : String → DeclaredType) : DeclaredType → DeclaredType
  | var name => types name
  | list element => list (replace types element)
  | array component => array (replace types component)
  | type => type

/-- Call the type variables otherwise. -/
def rename (names : String → String) (type : DeclaredType) : DeclaredType :=
  type.replace fun name => var (names name)

/-- The names of the type variables in a type. -/
def typeVariables : DeclaredType → List String
  | var name => [name]
  | list element => element.typeVariables
  | array component => component.typeVariables
  | _ => []

end DeclaredType

end DynamicSql

import DynamicSql.Entries
import DynamicSql.Text.Quoted

/-!
# Declared types

What a getter returns, a setter accepts and a field stores.  A nominal type
carries its supertypes, so that assignability needs no table of all types; two
nominal types are equal when their names are.
-/

namespace DynamicSql

/-- A nominal type with its direct supertypes. -/
inductive NominalType
  | mk (name : String) (supertypes : List NominalType)
  deriving Inhabited

namespace NominalType

/-- The name. -/
def name : NominalType → String
  | mk name _ => name

/-- The direct supertypes. -/
def supertypes : NominalType → List NominalType
  | mk _ supertypes => supertypes

/-- A type without supertypes. -/
def root (name : String) : NominalType := mk name []

/-- Add a direct supertype, unless there is one of that name. -/
def extend (type supertype : NominalType) : NominalType :=
  if type.supertypes.any fun s => s.name == supertype.name then type
  else mk type.name (type.supertypes ++ [supertype])

mutual

/-- Whether the type called `ancestor` is this type or one of its supertypes, at
any distance. -/
def descendsFrom (ancestor : String) : NominalType → Bool
  | mk name supertypes => ancestor == name || anyDescendsFrom ancestor supertypes

/-- Whether one of the types descends from `ancestor`. -/
def anyDescendsFrom (ancestor : String) : List NominalType → Bool
  | [] => false
  | type :: rest => descendsFrom ancestor type || anyDescendsFrom ancestor rest

end

end NominalType

/-- A declared type. -/
inductive DeclaredType
  | any
  | void
  | boolean
  | integer
  | long
  | decimal
  | string
  | list (element : DeclaredType)
  | map
  | array (component : DeclaredType)
  | named (type : NominalType)
  | var (name : String)
  deriving Inhabited

/-- Types standing for type parameters. -/
abbrev TypeEnv := Entries DeclaredType

namespace DeclaredType

/-- Whether two types are equal; nominal types are compared by name. -/
def same : DeclaredType → DeclaredType → Bool
  | any, any | void, void | boolean, boolean | integer, integer | long, long
  | decimal, decimal | string, string | map, map => true
  | list a, list b => same a b
  | array a, array b => same a b
  | named a, named b => a.name == b.name
  | var a, var b => a == b
  | _, _ => false

instance : BEq DeclaredType := ⟨same⟩

/-- Whether the type is a scalar that has no reference form as an array component. -/
def isPrimitive : DeclaredType → Bool
  | boolean | integer | long => true
  | _ => false

/-- Whether a value of the type `source` can be stored where `target` is expected. -/
def isAssignableFrom (target source : DeclaredType) : Bool :=
  target == source ||
    match target, source with
    | _, void | void, _ => false
    | any, _ => true
    | list element, list _ => element == any
    | array a, array b => !b.isPrimitive && isAssignableFrom a b
    | named a, named b => b.descendsFrom a.name
    | _, _ => false

/-- Put types for type parameters; a parameter without a type stays. -/
def bind (env : TypeEnv) : DeclaredType → DeclaredType
  | var name => (env.get? name).getD (var name)
  | list element => list (bind env element)
  | array component => array (bind env component)
  | type => type

/-- Put types for type parameters; a parameter without a type becomes `any`. -/
def substitute (env : TypeEnv) : DeclaredType → DeclaredType
  | var name => (env.get? name).getD any
  | list element => list (substitute env element)
  | array component => array (substitute env component)
  | type => type

/-- The raw form of a type: every type parameter becomes `any`. -/
def erased (type : DeclaredType) : DeclaredType := type.substitute []

/-- The text of a type. -/
def text : DeclaredType → String
  | any => "Object"
  | void => "void"
  | boolean => "boolean"
  | integer => "int"
  | long => "long"
  | decimal => "Decimal"
  | string => "String"
  | list element => "List<" ++ text element ++ ">"
  | map => "Map"
  | array component => text component ++ "[]"
  | named type => type.name
  | var name => name

/-- The diagnostic text of a type. -/
def debugText : DeclaredType → String
  | any => "Any"
  | void => "Void"
  | boolean => "Boolean"
  | integer => "Integer"
  | long => "Long"
  | decimal => "Decimal"
  | string => "String"
  | list element => "List(" ++ debugText element ++ ")"
  | map => "Map"
  | array component => "Array(" ++ debugText component ++ ")"
  | named type => "Named(" ++ type.name ++ ")"
  | var name => "Var(" ++ Text.quoted name ++ ")"

end DeclaredType

end DynamicSql

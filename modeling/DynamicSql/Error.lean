import DynamicSql.Types.Basic

/-!
# Errors of property access

Each error is a cause with its data; the wording stands in one function.
-/

namespace DynamicSql

/-- What two accessors of one property disagree on. -/
inductive Disagreement
  /-- Two getters return types of which neither is the more specific one. -/
  | getters
  /-- Two setters accept unrelated types. -/
  | setters (first second : DeclaredType)

/-- Two accessors of one property that cannot be told apart. -/
structure Conflict where
  property : String
  className : String
  /-- The declarations of the two accessors. -/
  candidates : List String
  disagreement : Disagreement

/-- Why a property cannot be read, written or an object not be made. -/
inductive AccessError
  | noDefaultConstructor (className : String)
  | noGetter (property className : String)
  | noSetter (property className : String)
  | ambiguous (conflict : Conflict)
  | deadEnd (path property : String)
  | invalidIndex (index property : String)
  | mismatch (expected found : String)
  | wrongReceiver (expected found : String)
  | unsupported (property operation : String)
  | noAccessorName (name : String)

/-- The words for a conflict. -/
def Conflict.message (conflict : Conflict) : String :=
  match conflict.disagreement with
  | .getters =>
    "Illegal overloaded getter method with ambiguous type for property '" ++ conflict.property ++
      "' in class '" ++ conflict.className ++
      "'. Accessors with one name must agree on a type or reads become unpredictable."
  | .setters first second =>
    "Ambiguous setters defined for property '" ++ conflict.property ++ "' in class '" ++
      conflict.className ++ "' with types '" ++ first.text ++ "' and '" ++ second.text ++ "'."

/-- The words for an error. -/
def AccessError.message : AccessError → String
  | noDefaultConstructor className => "There is no default constructor for " ++ className
  | noGetter property className =>
    "There is no getter for property named '" ++ property ++ "' in '" ++ className ++ "'"
  | noSetter property className =>
    "There is no setter for property named '" ++ property ++ "' in '" ++ className ++ "'"
  | ambiguous conflict => conflict.message
  | deadEnd path property =>
    "Cannot navigate into '" ++ property ++ "' while resolving '" ++ path ++
      "': value is not traversable"
  | invalidIndex index property =>
    "Invalid index '" ++ index ++ "' for property '" ++ property ++ "'"
  | mismatch expected found => "Expected a value of type " ++ expected ++ ", got " ++ found
  | wrongReceiver expected found => "Accessor declared for " ++ expected ++ " invoked on " ++ found
  | unsupported property operation =>
    "Accessor for '" ++ property ++ "' does not support " ++ operation
  | noAccessorName name =>
    "Error parsing property name '" ++ name ++ "'. Didn't start with 'is', 'get' or 'set'."

end DynamicSql

import DynamicSql.Error
import DynamicSql.Text.LetterCase

/-!
# Property names

A getter is called `getX` or `isX`, a setter `setX`; the property is `x`.  A stem
whose second letter is upper case keeps its first letter: `getURL` reads `URL`.
-/

namespace DynamicSql.PropertyName

/-- The rest of a text after a given start. -/
def afterStart? (start : List Char) (cs : List Char) : Option (List Char) :=
  if start.isPrefixOf cs then some (cs.drop start.length) else none

/-- Lower the first letter, unless the second is upper case. -/
def uncapitalize : List Char → List Char
  | [] => []
  | first :: rest =>
    if rest.head?.any Text.isUppercase then first :: rest else Text.lowerChar first ++ rest

/-- The stem of an accessor name, without `is`, `get` or `set`. -/
def stem? (name : List Char) : Option (List Char) :=
  (afterStart? ['i', 's'] name).or
    ((afterStart? ['g', 'e', 't'] name).or (afterStart? ['s', 'e', 't'] name))

/-- The property an accessor stands for. -/
def ofAccessor (name : String) : Except AccessError String :=
  match stem? name.toList with
  | some stem => .ok (String.ofList (uncapitalize stem))
  | none => .error (.noAccessorName name)

/-- Whether a method name is that of a getter: `getX` or `isX`. -/
def isGetter (name : String) : Bool :=
  let cs := name.toList
  (['g', 'e', 't'].isPrefixOf cs && 3 < cs.length) || (['i', 's'].isPrefixOf cs && 2 < cs.length)

/-- Whether a method name is that of a setter: `setX`. -/
def isSetter (name : String) : Bool :=
  ['s', 'e', 't'].isPrefixOf name.toList && 3 < name.toList.length

/-- Whether a name can be a property: some names are reserved. -/
def isValid (name : String) : Bool :=
  !(['$'].isPrefixOf name.toList) && name != "serialVersionUID" && name != "class"

end DynamicSql.PropertyName

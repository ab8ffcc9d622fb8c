import DynamicSql.Classes.Basic
import DynamicSql.Error

/-!
# Accessors

What a property table holds for a property and a direction: a method, a field,
or the record of a conflict that makes every use fail.
-/

namespace DynamicSql

/-- The way to read or write one property. -/
inductive Accessor
  | method (property : String) (type : DeclaredType) (body : Body)
  | field (property : String) (type : DeclaredType) (body : Body)
  | ambiguous (type : DeclaredType) (conflict : Conflict)

namespace Accessor

/-- The declared type of the value read or written. -/
def valueType : Accessor → DeclaredType
  | method _ type _ | field _ type _ | ambiguous type _ => type

/-- Whether every use fails. -/
def isAmbiguous : Accessor → Bool
  | ambiguous .. => true
  | _ => false

/-- What a read through the accessor yields. -/
def readBody : Accessor → Except AccessError ReadBody
  | method _ _ (.read body) | field _ _ (.read body) => .ok body
  | method property _ _ | field property _ _ => .error (.unsupported property "read")
  | ambiguous _ conflict => .error (.ambiguous conflict)

/-- What a write through the accessor does. -/
def writeBody : Accessor → Except AccessError WriteBody
  | method _ _ (.write body) | field _ _ (.write body) => .ok body
  | method property _ _ | field property _ _ => .error (.unsupported property "write")
  | ambiguous _ conflict => .error (.ambiguous conflict)

/-- The diagnostic text. -/
def debugText : Accessor → String
  | method property type _ => "Method(" ++ property ++ ": " ++ type.text ++ ")"
  | field property type _ => "Field(" ++ property ++ ": " ++ type.text ++ ")"
  | ambiguous _ conflict => "Ambiguous(" ++ conflict.property ++ ")"

end Accessor

end DynamicSql

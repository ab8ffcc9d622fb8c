import DynamicSql.Classes.Basic
import DynamicSql.Property.Name

/-!
# The members of a property

The members of a class that make up one property: in a record the methods without arguments
that have its name, in any other class its getters, its setters and the fields of its name, as
long as the name is valid.  A class is restricted to a property by leaving out all other
members, in every layer.
-/

namespace DynamicSql

/-- Whether an accessor name stands for a property; invalid names are those of no property. -/
def PropertyName.standsFor (property accessor : String) : Bool :=
  match ofAccessor accessor with
  | .ok name => name == property && isValid property
  | .error _ => false

namespace MethodDecl

/-- Whether a method reads a property: in a record under its own name, otherwise as a getter. -/
def reads (isRecord : Bool) (property : String) (method : MethodDecl) : Bool :=
  !method.bridge && method.params.isEmpty &&
    if isRecord then method.name == property
    else PropertyName.isGetter method.name && PropertyName.standsFor property method.name

/-- Whether a method writes a property, as a setter; records are never written. -/
def writes (isRecord : Bool) (property : String) (method : MethodDecl) : Bool :=
  !isRecord && !method.bridge && method.params.length == 1 &&
    PropertyName.isSetter method.name && PropertyName.standsFor property method.name

/-- Whether a method is a member of a property, in either direction. -/
def belongsTo (isRecord : Bool) (property : String) (method : MethodDecl) : Bool :=
  method.reads isRecord property || method.writes isRecord property

end MethodDecl

/-- Whether a field is a member of a property; the fields of records are none. -/
def FieldDecl.belongsTo (isRecord : Bool) (property : String) (field : FieldDecl) : Bool :=
  !isRecord && field.name == property && PropertyName.isValid property

namespace ClassDecl

section Restriction

variable (keepMethod : MethodDecl → Bool) (keepField : FieldDecl → Bool)

mutual

/-- Keep only some members of every layer. -/
def restrict : ClassDecl → ClassDecl
  | ⟨name, params, superclass, interfaces, constructors, methods, fields, isRecord⟩ =>
    ⟨name, params, restrictAbove superclass, restrictAll interfaces, constructors,
      methods.filter keepMethod, fields.filter keepField, isRecord⟩

/-- Keep only some members of a superclass, if there is one. -/
def restrictAbove : Option Supertype → Option Supertype
  | none => none
  | some ⟨decl, args⟩ => some ⟨restrict decl, args⟩

/-- Keep only some members of several interfaces. -/
def restrictAll : List Supertype → List Supertype
  | [] => []
  | ⟨decl, args⟩ :: rest => ⟨restrict decl, args⟩ :: restrictAll rest

end

end Restriction

/-- The class with the members of one property and no others, in any layer. -/
def only (decl : ClassDecl) (property : String) : ClassDecl :=
  decl.restrict (MethodDecl.belongsTo decl.isRecord property)
    (FieldDecl.belongsTo decl.isRecord property)

end ClassDecl

end DynamicSql

import DynamicSql.Classes.Chains
import DynamicSql.Property.Members
import DynamicSql.Property.Table

/-!
# Where the accessors of a property come from

Every accessor in a property table is contributed by one declaration: the method that is called,
the first of two methods in conflict, or the field.  The declaration stands in a layer that a
chain of supertypes leads to, and its type there becomes the type of the property.
-/

namespace DynamicSql

/-- What an accessor of a property makes of a method: it calls the method, or reports a conflict
of which the method is the first candidate. -/
inductive Accessor.MadeOf (property : String) (method : MethodDecl) (className : String) :
    Accessor → Prop
  | call (type : DeclaredType) : MadeOf property method className (.method property type method.body)
  | conflict (type : DeclaredType) {conflict : Conflict} (hproperty : conflict.property = property)
      (hfirst : conflict.candidates.head? = some (method.declaration className)) :
      MadeOf property method className (.ambiguous type conflict)

namespace ClassDecl

/-- A method of the layer at the end of a chain that discovery keeps. -/
structure Discovers (decl : ClassDecl) (chain : List Supertype) (layer : ClassDecl)
    (method : MethodDecl) : Prop where
  reached : decl.Reaches chain layer
  declared : method ∈ layer.methods
  kept : ⟨method, layer.name, Supertype.envAlong chain⟩ ∈ decl.discovered

/-- A field of the layer at the end of a chain that is the nearest one of its name. -/
structure Sees (decl : ClassDecl) (chain : List Supertype) (layer : ClassDecl)
    (field : FieldDecl) : Prop where
  inherited : decl.Inherits chain layer
  declared : field ∈ layer.fields
  visible : ⟨field, Supertype.envAlong chain⟩ ∈ decl.visibleFields

/-- A read accessor of a property with its declared type, in the layer at the end of a chain. -/
inductive ReadThrough (decl : ClassDecl) (property : String) (chain : List Supertype) :
    DeclaredType → Accessor → Prop
  | method {layer : ClassDecl} {method : MethodDecl} {accessor : Accessor}
      (h : decl.Discovers chain layer method) (hreads : method.reads decl.isRecord property = true)
      (hmade : accessor.MadeOf property method layer.name) :
      ReadThrough decl property chain method.returns accessor
  | field {layer : ClassDecl} {field : FieldDecl} (h : decl.Sees chain layer field)
      (hname : field.name = property) (type : DeclaredType) :
      ReadThrough decl property chain field.type (.field property type (.read field.read))

/-- A write accessor of a property with its declared type, in the layer at the end of a chain. -/
inductive WrittenThrough (decl : ClassDecl) (property : String) (chain : List Supertype) :
    DeclaredType → Accessor → Prop
  | method {layer : ClassDecl} {method : MethodDecl} {param : DeclaredType} {accessor : Accessor}
      (h : decl.Discovers chain layer method) (hwrites : method.writes decl.isRecord property = true)
      (hparam : method.params = [param]) (hmade : accessor.MadeOf property method layer.name) :
      WrittenThrough decl property chain param accessor
  | field {layer : ClassDecl} {field : FieldDecl} {body : WriteBody}
      (h : decl.Sees chain layer field) (hname : field.name = property)
      (hwrite : field.write = some body) (type : DeclaredType) :
      WrittenThrough decl property chain field.type (.field property type (.write body))

end ClassDecl

/-- How a declared type becomes the type of a property. -/
structure DeclaredType.ResolvesTo (chain : List Supertype) (declared type : DeclaredType) :
    Prop where
  /-- The type is what the declared type means to the class. -/
  resolved : type = declared.resolveAlong chain
  /-- No type variable is left, at any depth. -/
  closed : type.typeVariables = []
  /-- Whether layers call their parameters alike makes no difference. -/
  renamed : ∀ names : Nat → String → String, (∀ depth, Function.Injective (names depth)) →
    (declared.rename (names chain.length)).resolveAlong (Supertype.renameAlong names chain) = type

end DynamicSql

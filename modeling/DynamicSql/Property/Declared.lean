import DynamicSql.Property.Table

/-!
# What a class declares

The members that a class has by itself or through its supertypes, said without
discovery.  Superclasses contribute methods and fields; interfaces contribute
methods, and so do the interfaces that they extend.  Of the fields with one name
the nearest along the superclass chain counts, and the first within its layer.
-/

namespace DynamicSql

/-- The layer that a supertype is seen as from a layer that names it. -/
def Supertype.layer (supertype : Supertype) (env : TypeEnv) : Layer :=
  ⟨supertype.decl, Supertype.env supertype.decl supertype.args env⟩

namespace Layer

/-- A layer and its superclasses, at any distance. -/
inductive Ancestor : Layer → Layer → Prop
  | self (layer) : Ancestor layer layer
  | inherited {layer above : Layer} {superclass : Supertype}
      (hs : layer.decl.superclass = some superclass)
      (h : Ancestor (superclass.layer layer.env) above) : Ancestor layer above

/-- A layer and the interfaces that it names, at any distance. -/
inductive Extension : Layer → Layer → Prop
  | self (layer) : Extension layer layer
  | parent {layer above : Layer} {interface : Supertype}
      (hs : interface ∈ layer.decl.interfaces)
      (h : Extension (interface.layer layer.env) above) : Extension layer above

/-- The nearest field of a name, with the types of its layer. -/
inductive NearestField (name : String) : Layer → LayeredField → Prop
  | own {layer : Layer} {field : FieldDecl}
      (h : layer.decl.fields.find? (fun field => field.name == name) = some field) :
      NearestField name layer ⟨field, layer.env⟩
  | inherited {layer : Layer} {superclass : Supertype} {found : LayeredField}
      (hnone : ∀ field ∈ layer.decl.fields, field.name ≠ name)
      (hs : layer.decl.superclass = some superclass)
      (h : NearestField name (superclass.layer layer.env) found) : NearestField name layer found

end Layer

/-- Whether a method is an accessor of a property: it takes `arity` arguments, its name
has the given shape and stands for the property, and it does not only forward. -/
def MethodDecl.IsAccessorOf (arity : Nat) (shape : String → Bool) (property : String)
    (method : MethodDecl) : Prop :=
  method.bridge = false ∧ method.params.length = arity ∧ shape method.name = true ∧
    PropertyName.ofAccessor method.name = .ok property

namespace ClassDecl

/-- A class as the layer at the bottom of its hierarchy; no types stand for its own
parameters. -/
def bottom (decl : ClassDecl) : Layer := ⟨decl, []⟩

/-- The layers of which a class has the methods: itself, its superclasses, and the
interfaces reachable from one of these through interface extension. -/
def HasLayer (decl : ClassDecl) (layer : Layer) : Prop :=
  ∃ ancestor, Layer.Ancestor decl.bottom ancestor ∧ Layer.Extension ancestor layer

/-- An accessor of the property is declared. -/
def DeclaresAccessor (arity : Nat) (shape : String → Bool) (decl : ClassDecl)
    (property : String) : Prop :=
  ∃ layer, decl.HasLayer layer ∧
    ∃ method ∈ layer.decl.methods, method.IsAccessorOf arity shape property

/-- A getter of the property, without arguments, is declared. -/
def DeclaresGetter : ClassDecl → String → Prop := DeclaresAccessor 0 PropertyName.isGetter

/-- A setter of the property, with one argument, is declared. -/
def DeclaresSetter : ClassDecl → String → Prop := DeclaresAccessor 1 PropertyName.isSetter

/-- The class or a superclass declares a field of the name. -/
def DeclaresField (decl : ClassDecl) (name : String) : Prop :=
  ∃ layer, Layer.Ancestor decl.bottom layer ∧ ∃ field ∈ layer.decl.fields, field.name = name

end ClassDecl

/-! ## Names that keep signatures apart -/

/-- The characters that separate the parts of a signature. -/
def isSeparator (c : Char) : Bool := c == '#' || c == ':' || c == ','

/-- The names of the nominal types in a type. -/
def DeclaredType.nominalNames : DeclaredType → List String
  | list element => element.nominalNames
  | array component => component.nominalNames
  | named type => [type.name]
  | _ => []

/-- A text without separators. -/
def HasNoSeparator (text : String) : Prop := ∀ c ∈ text.toList, isSeparator c = false

-- The text is gone through here, not the finitely many characters that there are.
instance (text : String) : Decidable (HasNoSeparator text) :=
  decidable_of_iff (text.toList.all (fun c => !isSeparator c) = true) (by
    unfold HasNoSeparator
    simp only [List.all_eq_true, Bool.not_eq_true'])

/-- Whether no separator stands in the name of a method or in the name of a nominal
type of its declaration. -/
structure MethodDecl.SeparatorFree (method : MethodDecl) : Prop where
  name : HasNoSeparator method.name
  types : ∀ type ∈ method.returns :: method.params, ∀ name ∈ type.nominalNames,
    HasNoSeparator name

/-- No separator stands in these names for any method of a hierarchy. -/
def ClassDecl.SeparatorFree (decl : ClassDecl) : Prop :=
  ∀ layer, decl.HasLayer layer → ∀ method ∈ layer.decl.methods, method.SeparatorFree

end DynamicSql

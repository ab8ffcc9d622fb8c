import DynamicSql.Property.Declared

/-!
# Overriding

Methods of a hierarchy override each other if they have one name, one raw return type and the
same raw parameter types.  Of those the first counts, in the order of their places: nearer
classes come first, a class comes before its interfaces, and each of these comes with all that
it extends before the next one.
-/

namespace DynamicSql

/-- Whether two methods override each other. -/
def MethodDecl.overrides (method other : MethodDecl) : Bool :=
  method.name == other.name && method.returns.erased == other.returns.erased &&
    method.params.map DeclaredType.erased == other.params.map DeclaredType.erased

/-! ## Places -/

namespace Layer

/-- The layer some superclasses above, if there are so many. -/
def superclassAt (layer : Layer) : Nat → Option Layer
  | 0 => some layer
  | height + 1 =>
    layer.decl.superclass.bind fun superclass => (superclass.layer layer.env).superclassAt height

/-- The interface at the end of a way that tells by number which interface of each layer is
meant. -/
def interfaceAt (layer : Layer) : List Nat → Option Layer
  | [] => some layer
  | number :: rest =>
    layer.decl.interfaces[number]?.bind fun interface =>
      (interface.layer layer.env).interfaceAt rest

end Layer

/-- A place for a method in a hierarchy. -/
structure MethodPlace where
  /-- How many superclasses above the class. -/
  height : Nat
  /-- The way from there through the interfaces. -/
  interfaces : List Nat
  /-- How many methods of the layer come before it. -/
  index : Nat

/-- Whether a place comes before another. -/
def MethodPlace.Before (place other : MethodPlace) : Prop :=
  place.height < other.height ∨
    place.height = other.height ∧
      (place.interfaces < other.interfaces ∨
        place.interfaces = other.interfaces ∧ place.index < other.index)

/-- The method at a place, with the types of its layer; methods that only forward have no
place. -/
def ClassDecl.methodAt? (decl : ClassDecl) (place : MethodPlace) : Option Discovered :=
  (decl.bottom.superclassAt place.height).bind fun ancestor =>
    (ancestor.interfaceAt place.interfaces).bind fun layer => (layerMethods layer)[place.index]?

/-! ## Names that keep raw types apart -/

/-- The characters that stand between the parts of a signature or of a type's text. -/
def isMark (c : Char) : Bool := isSeparator c || c == '<' || c == '>' || c == '[' || c == ']'

/-- A text without such characters. -/
def HasNoMark (text : String) : Prop := ∀ c ∈ text.toList, isMark c = false

-- The text is gone through here, not the finitely many characters that there are.
instance (text : String) : Decidable (HasNoMark text) :=
  decidable_of_iff (text.toList.all (fun c => !isMark c) = true) (by
    unfold HasNoMark
    simp only [List.all_eq_true, Bool.not_eq_true'])

/-- The types that are built in and have no parts. -/
def DeclaredType.builtIns : List DeclaredType :=
  [any, void, boolean, integer, long, decimal, string, map]

/-- A name without marks that is not the text of a built-in type. -/
def IsPlainName (name : String) : Prop :=
  HasNoMark name ∧ name ∉ DeclaredType.builtIns.map DeclaredType.text

instance (name : String) : Decidable (IsPlainName name) := inferInstanceAs (Decidable (_ ∧ _))

/-- Whether the name of a method has no marks and all nominal types of its declaration have
plain names. -/
structure MethodDecl.PlainlyNamed (method : MethodDecl) : Prop where
  name : HasNoMark method.name
  types : ∀ type ∈ method.returns :: method.params, ∀ name ∈ type.nominalNames, IsPlainName name

/-- Whether all methods of a hierarchy are plainly named. -/
def ClassDecl.PlainlyNamed (decl : ClassDecl) : Prop :=
  ∀ layer, decl.HasLayer layer → ∀ method ∈ layer.decl.methods, method.PlainlyNamed

end DynamicSql

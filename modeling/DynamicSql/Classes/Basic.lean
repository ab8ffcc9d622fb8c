import DynamicSql.Value.Basic
import DynamicSql.Types.Basic

/-!
# Class declarations

A host type describes itself as a class: its constructors, methods and fields,
its superclass and its interfaces.  Every member that can be read or written
says how: a read yields a constant or a slot of the object, a write converts its
argument and stores it in a slot.
-/

namespace DynamicSql

/-- The identity of a host type, with its fully qualified name. -/
structure TypeKey where
  index : Nat
  fullName : String
  deriving DecidableEq, Repr

/-- The part of a qualified name after its last pair of colons. -/
def TypeKey.lastSegment : List Char → List Char → List Char
  | segment, [] => segment.reverse
  | _, ':' :: ':' :: rest => lastSegment [] rest
  | segment, c :: rest => lastSegment (c :: segment) rest

/-- The name without its qualification. -/
def TypeKey.shortName (key : TypeKey) : String :=
  String.ofList (lastSegment [] key.fullName.toList)

/-- The kinds of values a write accepts. -/
inductive Conversion
  | any
  | boolean
  | long
  | int
  | decimal
  | string
  | object
  | map
  | text
  | optional (inner : Conversion)
  | list (element : Conversion)
  deriving DecidableEq, Repr

/-- What a read yields. -/
inductive ReadBody
  | constant (value : Value)
  | slot (name : String)

/-- Where a write stores its converted argument. -/
structure WriteBody where
  slot : String
  conversion : Conversion

/-- What an accessor does when it is called. -/
inductive Body
  | read (body : ReadBody)
  | write (body : WriteBody)
  | uncallable

/-- A declared method. -/
structure MethodDecl where
  name : String
  params : List DeclaredType
  returns : DeclaredType
  /-- A method that only forwards to another one; discovery skips it. -/
  bridge : Bool
  body : Body

/-- A declared field. -/
structure FieldDecl where
  name : String
  type : DeclaredType
  isFinal : Bool
  isStatic : Bool
  read : ReadBody
  write : Option WriteBody

/-- A declared constructor; one without parameters may be callable, and then
gives the slots of a new object. -/
structure ConstructorDecl where
  params : List DeclaredType
  body : Option (Entries Value)

mutual

/-- A declared class. -/
structure ClassDecl where
  name : String
  params : List String
  superclass : Option Supertype
  interfaces : List Supertype
  constructors : List ConstructorDecl
  methods : List MethodDecl
  fields : List FieldDecl
  /-- In a record every method without parameters is a read-only component. -/
  isRecord : Bool

/-- A superclass or interface with the types given for its parameters. -/
structure Supertype where
  decl : ClassDecl
  args : List DeclaredType

end

namespace MethodDecl

/-- The raw form of a method: its erased return type, its name and its erased
parameter types.  Methods with one signature are overrides of each other. -/
def signature (method : MethodDecl) : String :=
  let head := method.returns.erased.text ++ "#" ++ method.name
  match method.params with
  | [] => head
  | params => head ++ ":" ++ ",".intercalate (params.map fun type => type.erased.text)

/-- The declaration of a method, as shown in diagnostics. -/
def declaration (method : MethodDecl) (className : String) : String :=
  className ++ "." ++ method.name ++ "(" ++
    ", ".intercalate (method.params.map DeclaredType.text) ++ "): " ++ method.returns.text

end MethodDecl

/-- The diagnostic text of a field. -/
def FieldDecl.debugText (field : FieldDecl) : String :=
  Text.record "FieldDecl"
    [("name", Text.quoted field.name), ("ty", field.type.debugText),
      ("modifiers", Text.record "FieldModifiers"
        [("is_final", Text.boolText field.isFinal), ("is_static", Text.boolText field.isStatic)])]

namespace ClassDecl

/-- A class without members. -/
def empty (name : String) : ClassDecl := ⟨name, [], none, [], [], [], [], false⟩

mutual

/-- The nominal type of a class: its superclass and its interfaces are its
supertypes. -/
def nominalType : ClassDecl → NominalType
  | ⟨name, _, none, interfaces, _, _, _, _⟩ => extendAll (.root name) interfaces
  | ⟨name, _, some ⟨decl, _⟩, interfaces, _, _, _, _⟩ =>
    extendAll ((NominalType.root name).extend (nominalType decl)) interfaces

/-- Add the types of several supertypes. -/
def extendAll (type : NominalType) : List Supertype → NominalType
  | [] => type
  | ⟨decl, _⟩ :: rest => extendAll (type.extend (nominalType decl)) rest

end

/-- The slots of a new object made by the first callable constructor without
parameters. -/
def newSlots? (decl : ClassDecl) : Option (Entries Value) :=
  (decl.constructors.filter fun c => c.params.isEmpty).findSome? ConstructorDecl.body

end ClassDecl

end DynamicSql

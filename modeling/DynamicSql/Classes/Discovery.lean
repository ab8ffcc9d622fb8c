import DynamicSql.Classes.Layers
import DynamicSql.Property.Name

/-!
# Discovery of methods

Of the methods with one signature only the first in the order of the layers
counts; the others are what it overrides.  Discovered methods are then grouped
by the property that their name stands for.
-/

namespace DynamicSql

/-- A method with the class that declares it and the types of that layer. -/
structure Discovered where
  method : MethodDecl
  className : String
  env : TypeEnv

namespace Discovered

/-- A type of the declaration as seen from the concrete class. -/
def resolve (found : Discovered) (type : DeclaredType) : DeclaredType :=
  (type.bind found.env).erased

/-- The resolved return type. -/
def returnType (found : Discovered) : DeclaredType := found.resolve found.method.returns

/-- The resolved type of the first parameter. -/
def paramType (found : Discovered) : DeclaredType :=
  found.resolve (found.method.params.head?.getD .any)

/-- The declaration, as shown in diagnostics. -/
def identity (found : Discovered) : String := found.method.declaration found.className

end Discovered

/-- The first item of each key, in order. -/
def firsts {α : Type} (key : α → String) : List α → List α
  | [] => []
  | item :: rest => item :: (firsts key rest).filter fun other => key other != key item

namespace ClassDecl

/-- The methods of a layer, without those that only forward. -/
def layerMethods (layer : Layer) : List Discovered :=
  (layer.decl.methods.filter fun method => !method.bridge).map
    fun method => ⟨method, layer.decl.name, layer.env⟩

/-- All methods of the class, its interfaces and its ancestors, one per signature. -/
def discovered (decl : ClassDecl) : List Discovered :=
  firsts (fun found => found.method.signature) (decl.methodLayers.flatMap layerMethods)

end ClassDecl

/-- The property that a discovered method stands for, if its name is valid. -/
def Discovered.property? (found : Discovered) : Option String :=
  match PropertyName.ofAccessor found.method.name with
  | .ok name => if PropertyName.isValid name then some name else none
  | .error _ => none

/-- Whether a discovered method is a getter. -/
def Discovered.isGetter (found : Discovered) : Bool :=
  found.method.params.isEmpty && PropertyName.isGetter found.method.name

/-- Whether a discovered method is a setter. -/
def Discovered.isSetter (found : Discovered) : Bool :=
  found.method.params.length == 1 && PropertyName.isSetter found.method.name

/-- The methods that stand for a property, in order. -/
def candidates (found : List Discovered) (property : String) : List Discovered :=
  found.filter fun candidate => candidate.property? == some property

/-- The properties that some method stands for, in order. -/
def properties (found : List Discovered) : List String :=
  firsts id (found.filterMap Discovered.property?)

end DynamicSql

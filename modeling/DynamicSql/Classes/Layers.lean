import DynamicSql.Classes.Basic

/-!
# The layers of a class

A class is seen together with its ancestors and interfaces.  Each such layer
comes with the types that its parameters stand for: the arguments given where it
is named as a supertype, themselves resolved in the layer below.
-/

namespace DynamicSql

/-- A class declaration with the types that stand for its parameters. -/
structure Layer where
  decl : ClassDecl
  env : TypeEnv

/-- The types that stand for the parameters of a supertype named in a layer. -/
def Supertype.env (decl : ClassDecl) (args : List DeclaredType) (env : TypeEnv) : TypeEnv :=
  Entries.ofList ((decl.params.zip args).map fun (param, arg) => (param, arg.bind env))

namespace ClassDecl

mutual

/-- A class and its ancestors, nearest first. -/
def chain (env : TypeEnv) : ClassDecl → List Layer
  | ⟨name, params, superclass, interfaces, constructors, methods, fields, isRecord⟩ =>
    ⟨⟨name, params, superclass, interfaces, constructors, methods, fields, isRecord⟩, env⟩ ::
      chainAbove env superclass

/-- The chain of a superclass, if there is one. -/
def chainAbove (env : TypeEnv) : Option Supertype → List Layer
  | none => []
  | some ⟨decl, args⟩ => chain (Supertype.env decl args env) decl

end

mutual

/-- An interface, then what it extends, depth first. -/
def interfaceLayers (env : TypeEnv) : ClassDecl → List Layer
  | ⟨name, params, superclass, interfaces, constructors, methods, fields, isRecord⟩ =>
    ⟨⟨name, params, superclass, interfaces, constructors, methods, fields, isRecord⟩, env⟩ ::
      allInterfaceLayers env interfaces

/-- The layers of several interfaces, one after the other. -/
def allInterfaceLayers (env : TypeEnv) : List Supertype → List Layer
  | [] => []
  | ⟨decl, args⟩ :: rest =>
    interfaceLayers (Supertype.env decl args env) decl ++ allInterfaceLayers env rest

end

/-- The layers that contribute fields: the class and its ancestors. -/
def fieldLayers (decl : ClassDecl) : List Layer := decl.chain []

/-- The layers that contribute methods: the class with its interfaces, then its
superclass with its interfaces, and so on. -/
def methodLayers (decl : ClassDecl) : List Layer :=
  decl.fieldLayers.flatMap fun layer =>
    layer :: allInterfaceLayers layer.env layer.decl.interfaces

end ClassDecl

end DynamicSql

import DynamicSql.Classes.Layers
import DynamicSql.Types.Variables

/-!
# Chains of supertypes

A layer of a hierarchy is reached from the class through a chain of supertypes, each named by
the layer below it.  What a type of the layer means to the class is said here by going down the
chain: a parameter is the argument given for it, which is a type of the layer below.  The last
supertype stands first in a chain.
-/

namespace DynamicSql

namespace Supertype

/-- The argument for a parameter; of several parameters of one name the last counts. -/
def argument? (supertype : Supertype) (param : String) : Option DeclaredType :=
  ((supertype.decl.params.zip supertype.args).reverse.find? fun entry => entry.1 == param).map
    Prod.snd

/-- The types that stand for the parameters of the layer at the end of a chain. -/
def envAlong : List Supertype → TypeEnv
  | [] => []
  | supertype :: below => env supertype.decl supertype.args (envAlong below)

/-- Call the parameters of each layer of a chain otherwise, where they are declared and where
they are used.  The layer at a depth is that after so many supertypes. -/
def renameAlong (names : Nat → String → String) : List Supertype → List Supertype
  | [] => []
  | supertype :: below =>
    ⟨{ supertype.decl with params := supertype.decl.params.map (names (below.length + 1)) },
      supertype.args.map (DeclaredType.rename (names below.length))⟩ :: renameAlong names below

end Supertype

/-- What a type of the layer at the end of a chain means to the class: each parameter is its
argument, which is a type of the layer below and means what it means there.  Parameters without
an argument and those of the class itself may be anything. -/
def DeclaredType.resolveAlong : List Supertype → DeclaredType → DeclaredType
  | [], type => type.replace fun _ => any
  | supertype :: below, type =>
    type.replace fun param => ((supertype.argument? param).map (resolveAlong below)).getD any

namespace ClassDecl

/-- The class and its superclasses, with the chains to them. -/
inductive Inherits (decl : ClassDecl) : List Supertype → ClassDecl → Prop
  | self : Inherits decl [] decl
  | superclass {chain : List Supertype} {layer : ClassDecl} {superclass : Supertype}
      (h : Inherits decl chain layer) (hs : layer.superclass = some superclass) :
      Inherits decl (superclass :: chain) superclass.decl

/-- The layers of which a class has the methods, with the chains to them: from a superclass on
these lead through interfaces only. -/
inductive Reaches (decl : ClassDecl) : List Supertype → ClassDecl → Prop
  | inherited {chain : List Supertype} {layer : ClassDecl} (h : Inherits decl chain layer) :
      Reaches decl chain layer
  | interface {chain : List Supertype} {layer : ClassDecl} {interface : Supertype}
      (h : Reaches decl chain layer) (hs : interface ∈ layer.interfaces) :
      Reaches decl (interface :: chain) interface.decl

end ClassDecl

end DynamicSql

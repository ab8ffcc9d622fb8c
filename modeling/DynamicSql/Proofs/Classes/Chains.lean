import DynamicSql.Classes.Chains
import DynamicSql.Property.Declared

/-!
# Types along chains of supertypes

The types that stand for the parameters of a layer are put for them step by step while going up
a hierarchy, and what is left is erased at the end.  This comes to the same as replacing each
parameter by its argument and resolving that in the layer below
(`DeclaredType.erased_bind_envAlong`).  As every replacement is done at once, a parameter is
never taken for one of another layer (`DeclaredType.resolveAlong_rename`).
-/

namespace DynamicSql

/-! ## Replacing type variables -/

namespace DeclaredType

/-- Replacing twice is replacing once. -/
theorem replace_replace (types other : String → DeclaredType) (type : DeclaredType) :
    (type.replace types).replace other = type.replace fun name => (types name).replace other := by
  induction type with
  | list element ih => rw [replace, replace, replace, ih]
  | array component ih => rw [replace, replace, replace, ih]
  | _ => rfl

theorem bind_eq_replace (env : TypeEnv) (type : DeclaredType) :
    type.bind env = type.replace fun name => (env.get? name).getD (var name) := by
  induction type with
  | list element ih => rw [bind, replace, ih]
  | array component ih => rw [bind, replace, ih]
  | _ => rfl

theorem erased_eq_replace (type : DeclaredType) : type.erased = type.replace fun _ => any := by
  unfold erased
  induction type with
  | list element ih => rw [substitute, replace, ih]
  | array component ih => rw [substitute, replace, ih]
  | _ => rfl

/-- Binding and erasing puts for each type variable its erased type, or anything. -/
theorem erased_bind (env : TypeEnv) (type : DeclaredType) :
    (type.bind env).erased = type.replace fun name => ((env.get? name).map erased).getD any := by
  rw [bind_eq_replace, erased_eq_replace, replace_replace]
  congr 1
  funext name
  cases env.get? name with
  | none => rfl
  | some bound => exact (erased_eq_replace bound).symm

theorem rename_replace (names : String → String) (types : String → DeclaredType)
    (type : DeclaredType) :
    (type.rename names).replace types = type.replace fun name => types (names name) :=
  replace_replace _ _ type

/-- Type variables are left only where they are put for others. -/
theorem typeVariables_replace {types : String → DeclaredType}
    (h : ∀ name, (types name).typeVariables = []) (type : DeclaredType) :
    (type.replace types).typeVariables = [] := by
  induction type with
  | list element ih => exact ih
  | array component ih => exact ih
  | var name => exact h name
  | _ => rfl

end DeclaredType

/-! ## Resolution -/

namespace Supertype

/-- A parameter stands for its argument as seen from the layer below. -/
theorem get?_env (supertype : Supertype) (env : TypeEnv) (param : String) :
    (Supertype.env supertype.decl supertype.args env).get? param =
      (supertype.argument? param).map (DeclaredType.bind env) := by
  unfold Supertype.env Entries.ofList argument?
  rw [List.foldl_map, Option.map_map]
  refine (Entries.get?_foldl_put Prod.fst (DeclaredType.bind env ∘ Prod.snd)
    (supertype.decl.params.zip supertype.args) [] param).trans ?_
  rw [Entries.get?_nil, Option.or_none]

/-- A renamed parameter has the renamed argument. -/
theorem argument?_rename (supertype : Supertype) {names : String → String}
    (hnames : Function.Injective names) (rename : DeclaredType → DeclaredType) (param : String) :
    argument? ⟨{ supertype.decl with params := supertype.decl.params.map names },
        supertype.args.map rename⟩ (names param) =
      (supertype.argument? param).map rename := by
  unfold argument?
  rw [List.zip_map, ← List.map_reverse, List.find?_map]
  have hsame : ((fun entry : String × DeclaredType => entry.1 == names param) ∘
      Prod.map names rename) = fun entry => entry.1 == param := by
    funext entry
    rw [Bool.eq_iff_iff]
    simpa using hnames.eq_iff
  rw [hsame, Option.map_map, Option.map_map]
  rfl

end Supertype

open Supertype

namespace DeclaredType

/-- Going up with the types of each layer and erasing at the end is resolving going down. -/
theorem erased_bind_envAlong (chain : List Supertype) (type : DeclaredType) :
    (type.bind (envAlong chain)).erased = type.resolveAlong chain := by
  induction chain generalizing type with
  | nil =>
    rw [erased_bind, resolveAlong]
    rfl
  | cons supertype below ih =>
    rw [erased_bind, resolveAlong]
    congr 1
    funext param
    rw [envAlong, get?_env, Option.map_map]
    congr 2
    funext argument
    exact ih argument

/-- No type variable is left by resolution. -/
theorem typeVariables_resolveAlong (chain : List Supertype) (type : DeclaredType) :
    (type.resolveAlong chain).typeVariables = [] := by
  induction chain generalizing type with
  | nil => exact typeVariables_replace (fun _ => rfl) type
  | cons supertype below ih =>
    refine typeVariables_replace (fun param => ?_) type
    cases supertype.argument? param with
    | none => rfl
    | some argument => exact ih argument

/-- A type means the same when the parameters of each layer are called otherwise. -/
theorem resolveAlong_rename {names : Nat → String → String}
    (hnames : ∀ depth, Function.Injective (names depth)) (chain : List Supertype)
    (type : DeclaredType) :
    (type.rename (names chain.length)).resolveAlong (renameAlong names chain) =
      type.resolveAlong chain := by
  induction chain generalizing type with
  | nil => exact rename_replace _ _ type
  | cons supertype below ih =>
    rw [renameAlong, resolveAlong, resolveAlong, rename_replace]
    congr 1
    funext param
    rw [List.length_cons, argument?_rename supertype (hnames _), Option.map_map]
    congr 2
    funext argument
    exact ih argument

end DeclaredType

/-! ## The chains to the layers -/

namespace Layer

variable {decl : ClassDecl} {layer above : Layer} {chain : List Supertype}

/-- A chain to a layer goes on to its superclasses. -/
theorem Ancestor.exists_chain (h : Ancestor layer above) (hlayer : decl.Inherits chain layer.decl)
    (henv : layer.env = envAlong chain) :
    ∃ chain, decl.Inherits chain above.decl ∧ above.env = envAlong chain := by
  induction h generalizing chain with
  | self => exact ⟨chain, hlayer, henv⟩
  | @inherited layer above superclass hs _ ih =>
    exact ih (hlayer.superclass hs) (congrArg (Supertype.env superclass.decl superclass.args) henv)

/-- A chain to a layer goes on to what it extends. -/
theorem Extension.exists_chain (h : Extension layer above) (hlayer : decl.Reaches chain layer.decl)
    (henv : layer.env = envAlong chain) :
    ∃ chain, decl.Reaches chain above.decl ∧ above.env = envAlong chain := by
  induction h generalizing chain with
  | self => exact ⟨chain, hlayer, henv⟩
  | @parent layer above interface hs _ ih =>
    exact ih (hlayer.interface hs) (congrArg (Supertype.env interface.decl interface.args) henv)

end Layer

namespace ClassDecl

variable {decl : ClassDecl} {layer : Layer}

theorem exists_chain_of_ancestor (h : Layer.Ancestor decl.bottom layer) :
    ∃ chain, decl.Inherits chain layer.decl ∧ layer.env = envAlong chain :=
  h.exists_chain .self rfl

/-- A chain leads to each layer, with the types that stand for its parameters. -/
theorem HasLayer.exists_chain (h : decl.HasLayer layer) :
    ∃ chain, decl.Reaches chain layer.decl ∧ layer.env = envAlong chain := by
  obtain ⟨ancestor, hancestor, hextension⟩ := h
  obtain ⟨chain, hinherits, henv⟩ := exists_chain_of_ancestor hancestor
  exact hextension.exists_chain (.inherited hinherits) henv

end ClassDecl

end DynamicSql

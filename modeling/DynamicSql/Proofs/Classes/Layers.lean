import DynamicSql.Property.Declared

/-!
# The layers of a hierarchy

Walking a hierarchy meets every layer that stands in it and no other: going up
the superclasses lists the ancestors of a class, going down the interfaces of a
layer lists what it extends.
-/

namespace DynamicSql

namespace ClassDecl

/-! ## One step of a walk -/

/-- The layer of the superclass, if there is one, comes after the class. -/
theorem chain_eq (env : TypeEnv) (decl : ClassDecl) :
    decl.chain env = ⟨decl, env⟩ :: chainAbove env decl.superclass := by
  cases decl
  rw [chain]

theorem chainAbove_some (env : TypeEnv) (superclass : Supertype) :
    chainAbove env (some superclass) =
      (superclass.layer env).decl.chain (superclass.layer env).env := by
  cases superclass
  rw [chainAbove]
  rfl

theorem interfaceLayers_eq (env : TypeEnv) (decl : ClassDecl) :
    decl.interfaceLayers env = ⟨decl, env⟩ :: allInterfaceLayers env decl.interfaces := by
  cases decl
  rw [interfaceLayers]

theorem allInterfaceLayers_cons (env : TypeEnv) (interface : Supertype) (rest : List Supertype) :
    allInterfaceLayers env (interface :: rest) =
      (interface.layer env).decl.interfaceLayers (interface.layer env).env ++
        allInterfaceLayers env rest := by
  cases interface
  rw [allInterfaceLayers]
  rfl

theorem allInterfaceLayers_nil (env : TypeEnv) : allInterfaceLayers env [] = [] := by
  rw [allInterfaceLayers]

/-- The layers of several interfaces are those of each. -/
theorem mem_allInterfaceLayers {env : TypeEnv} {layer : Layer} {interfaces : List Supertype} :
    layer ∈ allInterfaceLayers env interfaces ↔
      ∃ interface ∈ interfaces,
        layer ∈ (interface.layer env).decl.interfaceLayers (interface.layer env).env := by
  induction interfaces with
  | nil => simp [allInterfaceLayers_nil]
  | cons interface rest ih => simp [allInterfaceLayers_cons, ih]

end ClassDecl

open ClassDecl

/-! ## Induction over a hierarchy -/

/-- What holds of a layer when it holds of its superclass holds of every layer. -/
theorem Layer.superclassInduction {motive : Layer → Prop}
    (step : ∀ layer : Layer,
      (∀ superclass, layer.decl.superclass = some superclass →
        motive (superclass.layer layer.env)) → motive layer) (layer : Layer) : motive layer := by
  obtain ⟨decl, env⟩ := layer
  induction h : sizeOf decl using Nat.strongRecOn generalizing decl env with
  | _ size ih =>
    subst h
    refine step ⟨decl, env⟩ fun superclass hs => ?_
    refine ih _ ?_ superclass.decl _ rfl
    obtain ⟨⟩ := decl
    obtain ⟨⟩ := superclass
    cases hs
    simp
    omega

/-- What holds of a layer when it holds of its interfaces holds of every layer. -/
theorem Layer.interfaceInduction {motive : Layer → Prop}
    (step : ∀ layer : Layer,
      (∀ interface ∈ layer.decl.interfaces, motive (interface.layer layer.env)) →
        motive layer) (layer : Layer) : motive layer := by
  obtain ⟨decl, env⟩ := layer
  induction h : sizeOf decl using Nat.strongRecOn generalizing decl env with
  | _ size ih =>
    subst h
    refine step ⟨decl, env⟩ fun interface hi => ?_
    refine ih _ ?_ interface.decl _ rfl
    obtain ⟨⟩ := decl
    obtain ⟨⟩ := interface
    have := List.sizeOf_lt_of_mem hi
    simp at this ⊢
    omega

/-! ## The layers that a walk meets -/

namespace Layer

/-- Going up the superclasses lists the ancestors. -/
theorem mem_chain {layer above : Layer} :
    above ∈ layer.decl.chain layer.env ↔ Ancestor layer above := by
  constructor
  · intro h
    induction layer using superclassInduction with
    | step layer ih =>
      rw [chain_eq, List.mem_cons] at h
      rcases h with rfl | h
      · exact .self _
      · cases hs : layer.decl.superclass with
        | none => simp [hs, chainAbove] at h
        | some superclass =>
          rw [hs, chainAbove_some] at h
          exact .inherited hs (ih superclass hs h)
  · intro h
    induction h with
    | self layer => simp [chain_eq]
    | inherited hs _ ih =>
      rw [chain_eq, hs, chainAbove_some]
      exact List.mem_cons_of_mem _ ih

/-- Going through the interfaces lists what a layer extends. -/
theorem mem_interfaceLayers {layer above : Layer} :
    above ∈ layer.decl.interfaceLayers layer.env ↔ Extension layer above := by
  constructor
  · intro h
    induction layer using interfaceInduction with
    | step layer ih =>
      rw [interfaceLayers_eq, List.mem_cons, mem_allInterfaceLayers] at h
      rcases h with rfl | ⟨interface, hi, h⟩
      · exact .self _
      · exact .parent hi (ih interface hi h)
  · intro h
    induction h with
    | self layer => simp [interfaceLayers_eq]
    | parent hs _ ih =>
      rw [interfaceLayers_eq, List.mem_cons, mem_allInterfaceLayers]
      exact .inr ⟨_, hs, ih⟩

end Layer

namespace ClassDecl

/-- Discovery looks at the layers of the class and at no other. -/
theorem mem_methodLayers {decl : ClassDecl} {layer : Layer} :
    layer ∈ decl.methodLayers ↔ decl.HasLayer layer := by
  unfold methodLayers fieldLayers HasLayer
  rw [List.mem_flatMap]
  refine exists_congr fun ancestor => ?_
  have hchain : ancestor ∈ decl.chain [] ↔ Layer.Ancestor decl.bottom ancestor :=
    @Layer.mem_chain decl.bottom ancestor
  rw [hchain, ← interfaceLayers_eq, Layer.mem_interfaceLayers]

end ClassDecl

/-! ## Deciding what is said of the layers -/

instance (method : MethodDecl) : Decidable method.SeparatorFree :=
  decidable_of_iff (HasNoSeparator method.name ∧
      ∀ type ∈ method.returns :: method.params, ∀ name ∈ type.nominalNames, HasNoSeparator name)
    ⟨fun h => ⟨h.1, h.2⟩, fun h => ⟨h.name, h.types⟩⟩

instance (decl : ClassDecl) : Decidable decl.SeparatorFree :=
  decidable_of_iff (∀ layer ∈ decl.methodLayers, ∀ method ∈ layer.decl.methods,
      method.SeparatorFree)
    (forall_congr' fun _ => by rw [ClassDecl.mem_methodLayers])

instance (arity : Nat) (shape : String → Bool) (property : String) (method : MethodDecl) :
    Decidable (method.IsAccessorOf arity shape property) :=
  decidable_of_iff (method.bridge = false ∧ method.params.length = arity ∧
      shape method.name = true ∧ (PropertyName.ofAccessor method.name).toOption = some property)
    (by
      unfold MethodDecl.IsAccessorOf
      cases PropertyName.ofAccessor method.name <;> simp [Except.toOption])

instance (arity : Nat) (shape : String → Bool) (decl : ClassDecl) (property : String) :
    Decidable (decl.DeclaresAccessor arity shape property) :=
  decidable_of_iff (∃ layer ∈ decl.methodLayers, ∃ method ∈ layer.decl.methods,
      method.IsAccessorOf arity shape property)
    (exists_congr fun _ => by rw [ClassDecl.mem_methodLayers])

/-! ## Fields along the superclasses -/

namespace Layer

variable {layer : Layer} {name : String} {found : LayeredField}

/-- The fields of a layer, each with the types of the layer. -/
def ownFields (layer : Layer) : List LayeredField :=
  layer.decl.fields.map fun field => ⟨field, layer.env⟩

/-- The fields of a layer and its superclasses, nearest first. -/
def allFields (layer : Layer) : List LayeredField :=
  (layer.decl.chain layer.env).flatMap ownFields

theorem allFields_eq (layer : Layer) :
    layer.allFields = layer.ownFields ++
      (match layer.decl.superclass with
        | none => []
        | some superclass => (superclass.layer layer.env).allFields) := by
  unfold allFields
  rw [chain_eq]
  cases layer.decl.superclass with
  | none => simp [chainAbove]
  | some superclass => simp [chainAbove_some]

theorem find?_ownFields (layer : Layer) (name : String) :
    layer.ownFields.find? (fun found => found.field.name == name) =
      (layer.decl.fields.find? fun field => field.name == name).map (⟨·, layer.env⟩) := by
  unfold ownFields
  rw [List.find?_map]
  rfl

/-- The nearest field of a name is the first that going up the superclasses meets. -/
theorem find?_allFields : layer.allFields.find? (fun found => found.field.name == name) =
    some found ↔ NearestField name layer found := by
  constructor
  · intro h
    induction layer using superclassInduction with
    | step layer ih =>
      rw [allFields_eq, List.find?_append, find?_ownFields] at h
      cases hown : layer.decl.fields.find? fun field => field.name == name with
      | some field =>
        rw [hown] at h
        cases h
        exact .own hown
      | none =>
        rw [hown, Option.map_none, Option.none_or] at h
        cases hs : layer.decl.superclass with
        | none => simp [hs] at h
        | some superclass =>
          rw [hs] at h
          refine .inherited ?_ hs (ih superclass hs h)
          simpa using hown
  · intro h
    induction h with
    | own h => rw [allFields_eq, List.find?_append, find?_ownFields, h]; rfl
    | inherited hnone hs _ ih =>
      rw [allFields_eq, List.find?_append, find?_ownFields,
        List.find?_eq_none.2 (by simpa using hnone), hs]
      exact ih

theorem NearestField.name_eq (h : NearestField name layer found) : found.field.name = name := by
  simpa using List.find?_some (find?_allFields.2 h)

/-- Where a field of a name is declared, there is a nearest one. -/
theorem exists_nearestField :
    (∃ found, NearestField name layer found) ↔
      ∃ above, Ancestor layer above ∧ ∃ field ∈ above.decl.fields, field.name = name := by
  have hfind : (∃ found, NearestField name layer found) ↔
      (layer.allFields.find? fun found => found.field.name == name).isSome := by
    rw [Option.isSome_iff_exists]
    exact exists_congr fun _ => find?_allFields.symm
  rw [hfind, List.find?_isSome]
  simp only [allFields, ownFields, List.mem_flatMap, mem_chain, List.mem_map, beq_iff_eq]
  constructor
  · rintro ⟨_, ⟨above, habove, field, hfield, rfl⟩, hname⟩
    exact ⟨above, habove, field, hfield, hname⟩
  · rintro ⟨above, habove, field, hfield, hname⟩
    exact ⟨⟨field, above.env⟩, ⟨above, habove, field, hfield, rfl⟩, hname⟩

end Layer

end DynamicSql

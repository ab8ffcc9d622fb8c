import DynamicSql.Proofs.Property.Components
import DynamicSql.Property.Members
import Mathlib.Data.List.Basic

/-!
# Properties are independent of each other

All properties of a class come out of one discovery of methods, which keeps one method of each
signature, and of one search for the nearest fields.  Where no separator stands in a name, a
method and what it overrides belong to the same properties.  So leaving out members of other
properties and discovering the rest comes to discovering all and looking at the members of
one property (`filter_discovered_restrict`), and a property is read and written as before
(`accessors_independent`).
-/

namespace DynamicSql

/-! ## Looking at some of the items only -/

/-- Lists that agree on the items with one property agree on those with another that implies
it. -/
theorem filter_eq_of_imp {α : Type} {items others : List α} {p q : α → Bool}
    (h : items.filter p = others.filter p)
    (himp : ∀ item ∈ items, q item = true → p item = true)
    (himp' : ∀ item ∈ others, q item = true → p item = true) :
    items.filter q = others.filter q := by
  have hthrough : ∀ items : List α, (∀ item ∈ items, q item = true → p item = true) →
      (items.filter p).filter q = items.filter q := by
    intro items himp
    rw [List.filter_filter]
    exact List.filter_congr fun item hitem => Bool.and_eq_left_iff_imp.2 (himp item hitem)
  rw [← hthrough items himp, h, hthrough others himp']

/-! ## Restricted hierarchies -/

section Restriction

variable (keepMethod : MethodDecl → Bool) (keepField : FieldDecl → Bool)

/-- A layer with some of its members. -/
def Layer.restrict (layer : Layer) : Layer :=
  ⟨layer.decl.restrict keepMethod keepField, layer.env⟩

/-- A supertype with some of its members. -/
def Supertype.restrict (supertype : Supertype) : Supertype :=
  ⟨supertype.decl.restrict keepMethod keepField, supertype.args⟩

namespace ClassDecl

theorem methods_restrict (decl : ClassDecl) :
    (decl.restrict keepMethod keepField).methods = decl.methods.filter keepMethod := by
  cases decl
  rw [restrict]

theorem fields_restrict (decl : ClassDecl) :
    (decl.restrict keepMethod keepField).fields = decl.fields.filter keepField := by
  cases decl
  rw [restrict]

theorem name_restrict (decl : ClassDecl) :
    (decl.restrict keepMethod keepField).name = decl.name := by
  cases decl
  rw [restrict]

theorem isRecord_restrict (decl : ClassDecl) :
    (decl.restrict keepMethod keepField).isRecord = decl.isRecord := by
  cases decl
  rw [restrict]

theorem params_restrict (decl : ClassDecl) :
    (decl.restrict keepMethod keepField).params = decl.params := by
  cases decl
  rw [restrict]

theorem superclass_restrict (decl : ClassDecl) :
    (decl.restrict keepMethod keepField).superclass =
      decl.superclass.map (Supertype.restrict keepMethod keepField) := by
  obtain ⟨_, _, superclass, _, _, _, _, _⟩ := decl
  rw [restrict]
  rcases superclass with _ | ⟨decl, args⟩
  · rw [restrictAbove]
    rfl
  · rw [restrictAbove]
    rfl

theorem interfaces_restrict (decl : ClassDecl) :
    (decl.restrict keepMethod keepField).interfaces =
      decl.interfaces.map (Supertype.restrict keepMethod keepField) := by
  obtain ⟨_, _, _, interfaces, _, _, _, _⟩ := decl
  rw [restrict]
  show restrictAll keepMethod keepField interfaces = _
  induction interfaces with
  | nil => rw [restrictAll, List.map_nil]
  | cons interface rest ih =>
    cases interface
    rw [restrictAll, ih]
    rfl

end ClassDecl

open ClassDecl

theorem Supertype.layer_restrict (supertype : Supertype) (env : TypeEnv) :
    (supertype.restrict keepMethod keepField).layer env =
      (supertype.layer env).restrict keepMethod keepField := by
  show Layer.mk _ (Supertype.env _ supertype.args env) = Layer.mk _ _
  unfold Supertype.env
  rw [Supertype.restrict, params_restrict]
  rfl

/-- The superclasses of a restricted class are the restricted superclasses. -/
theorem Layer.chain_restrict (layer : Layer) :
    (layer.decl.restrict keepMethod keepField).chain layer.env =
      (layer.decl.chain layer.env).map (Layer.restrict keepMethod keepField) := by
  induction layer using superclassInduction with
  | step layer ih =>
    rw [chain_eq, chain_eq, superclass_restrict, List.map_cons]
    cases hs : layer.decl.superclass with
    | none => simp [chainAbove, Layer.restrict]
    | some superclass =>
      rw [Option.map_some, chainAbove_some, chainAbove_some, ← ih superclass hs,
        Supertype.layer_restrict]
      rfl

/-- The interfaces of a restricted class are the restricted interfaces. -/
theorem Layer.interfaceLayers_restrict (layer : Layer) :
    (layer.decl.restrict keepMethod keepField).interfaceLayers layer.env =
      (layer.decl.interfaceLayers layer.env).map (Layer.restrict keepMethod keepField) := by
  induction layer using interfaceInduction with
  | step layer ih =>
    have hall : ∀ interfaces ⊆ layer.decl.interfaces,
        allInterfaceLayers layer.env (interfaces.map (Supertype.restrict keepMethod keepField)) =
          (allInterfaceLayers layer.env interfaces).map (Layer.restrict keepMethod keepField) := by
      intro interfaces hsubset
      induction interfaces with
      | nil => simp [allInterfaceLayers_nil]
      | cons interface rest ih_rest =>
        obtain ⟨hinterface, hrest⟩ := List.cons_subset.1 hsubset
        rw [List.map_cons, allInterfaceLayers_cons, allInterfaceLayers_cons, List.map_append,
          ih_rest hrest, ← ih interface hinterface, Supertype.layer_restrict]
        rfl
    rw [interfaceLayers_eq, interfaceLayers_eq, interfaces_restrict,
      hall _ (List.Subset.refl _), List.map_cons]
    rfl

namespace ClassDecl

variable (decl : ClassDecl)

theorem fieldLayers_restrict :
    (decl.restrict keepMethod keepField).fieldLayers =
      decl.fieldLayers.map (Layer.restrict keepMethod keepField) :=
  Layer.chain_restrict keepMethod keepField decl.bottom

theorem methodLayers_restrict :
    (decl.restrict keepMethod keepField).methodLayers =
      decl.methodLayers.map (Layer.restrict keepMethod keepField) := by
  unfold methodLayers
  rw [fieldLayers_restrict, List.map_flatMap, List.flatMap_map]
  refine List.flatMap_congr fun layer _ => ?_
  rw [← interfaceLayers_eq, ← interfaceLayers_eq]
  exact layer.interfaceLayers_restrict keepMethod keepField

/-- A restricted hierarchy declares the methods that are kept. -/
theorem allMethods_restrict :
    (decl.restrict keepMethod keepField).allMethods =
      decl.allMethods.filter fun found => keepMethod found.method := by
  unfold allMethods
  rw [methodLayers_restrict, List.flatMap_map, List.filter_flatMap]
  refine List.flatMap_congr fun layer _ => ?_
  unfold layerMethods Layer.restrict
  rw [methods_restrict, name_restrict, List.filter_map, List.filter_filter, List.filter_filter]
  exact congrArg _ (List.filter_congr fun _ _ => Bool.and_comm _ _)

/-- A restricted hierarchy declares the fields that are kept. -/
theorem allFields_restrict :
    (decl.restrict keepMethod keepField).bottom.allFields =
      decl.bottom.allFields.filter fun found => keepField found.field := by
  show (decl.restrict keepMethod keepField).fieldLayers.flatMap Layer.ownFields =
    (decl.fieldLayers.flatMap Layer.ownFields).filter fun found => keepField found.field
  rw [fieldLayers_restrict, List.flatMap_map, List.filter_flatMap]
  refine List.flatMap_congr fun layer _ => ?_
  unfold Layer.ownFields Layer.restrict
  rw [fields_restrict, List.filter_map]
  rfl

end ClassDecl

end Restriction

/-! ## The members of one property -/

theorem PropertyName.standsFor_iff {property accessor : String} :
    standsFor property accessor = true ↔
      ofAccessor accessor = .ok property ∧ isValid property = true := by
  unfold standsFor
  split
  · rename_i name hname
    rw [hname, Bool.and_eq_true, beq_iff_eq, Except.ok.injEq]
  · rename_i error herror
    simp [herror]

namespace MethodDecl

variable {method other : MethodDecl} {isRecord : Bool} {property : String}

theorem belongsTo_of_reads (h : method.reads isRecord property = true) :
    method.belongsTo isRecord property = true :=
  Bool.or_eq_true_iff.2 (.inl h)

theorem belongsTo_of_writes (h : method.writes isRecord property = true) :
    method.belongsTo isRecord property = true :=
  Bool.or_eq_true_iff.2 (.inr h)

/-- What a method belongs to depends on its name and the number of its parameters. -/
theorem belongsTo_congr (isRecord : Bool) (property : String)
    (hbridge : method.bridge = other.bridge) (hname : method.name = other.name)
    (hlength : method.params.length = other.params.length) :
    method.belongsTo isRecord property = other.belongsTo isRecord property := by
  have hempty : method.params.isEmpty = other.params.isEmpty := by
    rw [Bool.eq_iff_iff, List.isEmpty_iff_length_eq_zero, List.isEmpty_iff_length_eq_zero, hlength]
  unfold belongsTo reads writes
  rw [hbridge, hname, hlength, hempty]

end MethodDecl

namespace ClassDecl

variable {decl : ClassDecl} {property : String} {found other : Discovered}
  {keepMethod : MethodDecl → Bool} {keepField : FieldDecl → Bool}

/-- A method and what it overrides belong to the same properties. -/
theorem belongsTo_of_signature_eq (hnames : decl.SeparatorFree) (hfound : found ∈ decl.allMethods)
    (hother : other ∈ decl.allMethods) (hsame : found.method.signature = other.method.signature)
    (isRecord : Bool) (property : String) :
    found.method.belongsTo isRecord property = other.method.belongsTo isRecord property := by
  obtain ⟨-, hname, htexts⟩ :=
    MethodDecl.signature_inj (hnames.of_mem hfound) (hnames.of_mem hother) hsame
  refine MethodDecl.belongsTo_congr isRecord property ?_ hname ?_
  · rw [bridge_of_mem_allMethods hfound, bridge_of_mem_allMethods hother]
  · simpa [MethodDecl.paramTexts] using congrArg List.length htexts

/-- A getter of a class that is no record reads its property. -/
theorem reads_of_isGetter (hfound : found ∈ decl.discovered)
    (h : (found.property? == some property && found.isGetter) = true) :
    found.method.reads false property = true := by
  rw [Bool.and_eq_true, beq_iff_eq, Discovered.property?_eq_some, Discovered.isGetter,
    Bool.and_eq_true] at h
  obtain ⟨hproperty, hparams, hshape⟩ := h
  have hbridge := bridge_of_mem_allMethods (mem_allMethods_of_mem_discovered hfound)
  simp [MethodDecl.reads, hbridge, hparams, hshape, PropertyName.standsFor_iff.2 hproperty]

/-- A setter of a class that is no record writes its property. -/
theorem writes_of_isSetter (hfound : found ∈ decl.discovered)
    (h : (found.property? == some property && found.isSetter) = true) :
    found.method.writes false property = true := by
  rw [Bool.and_eq_true, beq_iff_eq, Discovered.property?_eq_some, Discovered.isSetter,
    Bool.and_eq_true] at h
  obtain ⟨hproperty, hparams, hshape⟩ := h
  have hbridge := bridge_of_mem_allMethods (mem_allMethods_of_mem_discovered hfound)
  simp [MethodDecl.writes, hbridge, hparams, hshape, PropertyName.standsFor_iff.2 hproperty]

/-- A component of a record reads the property of its name. -/
theorem reads_of_isComponent {method : MethodDecl} (h : method.isComponent property = true) :
    method.reads true property = true := by
  obtain ⟨hbridge, hparams, hname⟩ := MethodDecl.isComponent_iff.1 h
  simp [MethodDecl.reads, hbridge, hparams, hname]

section Kept

variable (hnames : decl.SeparatorFree)
  (hmethods : ∀ method : MethodDecl,
    method.belongsTo decl.isRecord property = true → keepMethod method = true)
include hnames hmethods

/-- Of the members of a property the same are discovered, if they are all kept. -/
theorem filter_discovered_restrict (keepField : FieldDecl → Bool) :
    ((decl.restrict keepMethod keepField).discovered.filter
        fun found => found.method.belongsTo decl.isRecord property) =
      decl.discovered.filter fun found => found.method.belongsTo decl.isRecord property := by
  have hsame : ∀ found ∈ decl.allMethods, ∀ other ∈ decl.allMethods,
      found.method.signature = other.method.signature →
        found.method.belongsTo decl.isRecord property =
          other.method.belongsTo decl.isRecord property :=
    fun found hfound other hother hsame =>
      belongsTo_of_signature_eq hnames hfound hother hsame _ _
  have hkept : (decl.restrict keepMethod keepField).discovered =
      firsts (fun found => found.method.signature)
        (decl.allMethods.filter fun found => keepMethod found.method) :=
    congrArg _ (allMethods_restrict keepMethod keepField decl)
  have hsame' : ∀ found ∈ decl.allMethods.filter fun found => keepMethod found.method,
      ∀ other ∈ decl.allMethods.filter fun found => keepMethod found.method,
        found.method.signature = other.method.signature →
          found.method.belongsTo decl.isRecord property =
            other.method.belongsTo decl.isRecord property :=
    fun found hfound other hother =>
      hsame found (List.mem_filter.1 hfound).1 other (List.mem_filter.1 hother).1
  rw [hkept, filter_firsts hsame', List.filter_filter]
  refine Eq.trans (congrArg _ ?_) (filter_firsts hsame).symm
  exact List.filter_congr fun found _ => Bool.and_eq_left_iff_imp.2 (hmethods found.method)

theorem getters_restrict (hrecord : decl.isRecord = false) :
    (decl.restrict keepMethod keepField).getters property = decl.getters property := by
  have hmembers := filter_discovered_restrict hnames hmethods keepField
  rw [hrecord] at hmembers
  unfold getters candidates
  rw [List.filter_filter, List.filter_filter]
  exact filter_eq_of_imp hmembers
    (fun _ hfound h => MethodDecl.belongsTo_of_reads (reads_of_isGetter hfound h))
    (fun _ hfound h => MethodDecl.belongsTo_of_reads (reads_of_isGetter hfound h))

theorem setters_restrict (hrecord : decl.isRecord = false) :
    (decl.restrict keepMethod keepField).setters property = decl.setters property := by
  have hmembers := filter_discovered_restrict hnames hmethods keepField
  rw [hrecord] at hmembers
  unfold setters candidates
  rw [List.filter_filter, List.filter_filter]
  exact filter_eq_of_imp hmembers
    (fun _ hfound h => MethodDecl.belongsTo_of_writes (writes_of_isSetter hfound h))
    (fun _ hfound h => MethodDecl.belongsTo_of_writes (writes_of_isSetter hfound h))

theorem components_restrict (hrecord : decl.isRecord = true) :
    (decl.restrict keepMethod keepField).components property = decl.components property := by
  have hmembers := filter_discovered_restrict hnames hmethods keepField
  rw [hrecord] at hmembers
  exact filter_eq_of_imp hmembers
    (fun _ _ h => MethodDecl.belongsTo_of_reads (reads_of_isComponent h))
    (fun _ _ h => MethodDecl.belongsTo_of_reads (reads_of_isComponent h))

end Kept

section Fields

open Layer (NearestField)

variable (hrecord : decl.isRecord = false)
  (hfields : ∀ field : FieldDecl,
    field.belongsTo decl.isRecord property = true → keepField field = true)
include hrecord hfields

theorem nearestField_restrict (hvalid : PropertyName.isValid property = true)
    {nearest : LayeredField} :
    NearestField property (decl.restrict keepMethod keepField).bottom nearest ↔
      NearestField property decl.bottom nearest := by
  rw [← Layer.find?_allFields, ← Layer.find?_allFields, allFields_restrict, find?_filter_of_imp]
  intro found _ hname
  refine hfields found.field ?_
  rw [FieldDecl.belongsTo, hrecord, hname, hvalid]
  rfl

theorem fieldReaders_restrict :
    (decl.restrict keepMethod keepField).fieldReaders.get? property =
      decl.fieldReaders.get? property := by
  ext accessor
  rw [get?_fieldReaders, get?_fieldReaders]
  refine and_congr_right fun hvalid => ?_
  simp only [nearestField_restrict hrecord hfields hvalid]

theorem fieldWriters_restrict :
    (decl.restrict keepMethod keepField).fieldWriters.get? property =
      decl.fieldWriters.get? property := by
  ext accessor
  rw [get?_fieldWriters, get?_fieldWriters]
  refine and_congr_right fun hvalid => ?_
  simp only [nearestField_restrict hrecord hfields hvalid]

end Fields

end ClassDecl

/-! ## Tables -/

namespace PropertyTable

section Kept

variable {owner : TypeKey} {decl : ClassDecl} {property : String}
  {keepMethod : MethodDecl → Bool} {keepField : FieldDecl → Bool}
  (hnames : decl.SeparatorFree)
  (hmethods : ∀ method : MethodDecl,
    method.belongsTo decl.isRecord property = true → keepMethod method = true)
  (hfields : ∀ field : FieldDecl,
    field.belongsTo decl.isRecord property = true → keepField field = true)
include hnames hmethods hfields

/-- A property is read as before where its members are kept. -/
theorem reader_restrict :
    (build owner (decl.restrict keepMethod keepField)).reader property =
      (build owner decl).reader property := by
  have hreaders : (build owner (decl.restrict keepMethod keepField)).readers.get? property =
      (build owner decl).readers.get? property := by
    cases hrecord : decl.isRecord with
    | true =>
      rw [get?_readers_record hrecord,
        get?_readers_record ((ClassDecl.isRecord_restrict _ _ decl).trans hrecord),
        ClassDecl.components_restrict hnames hmethods hrecord]
    | false =>
      rw [get?_readers hrecord,
        get?_readers ((ClassDecl.isRecord_restrict _ _ decl).trans hrecord),
        ClassDecl.getters_restrict hnames hmethods hrecord,
        ClassDecl.fieldReaders_restrict hrecord hfields]
  have hclass : (build owner (decl.restrict keepMethod keepField)).className =
      (build owner decl).className := ClassDecl.name_restrict keepMethod keepField decl
  rw [reader, reader, hreaders, hclass]

/-- A property is written as before where its members are kept. -/
theorem writer_restrict :
    (build owner (decl.restrict keepMethod keepField)).writer property =
      (build owner decl).writer property := by
  have hwriters : (build owner (decl.restrict keepMethod keepField)).writers.get? property =
      (build owner decl).writers.get? property := by
    cases hrecord : decl.isRecord with
    | true =>
      unfold build
      simp only [ClassDecl.isRecord_restrict, hrecord, if_true]
    | false =>
      rw [get?_writers hrecord,
        get?_writers ((ClassDecl.isRecord_restrict _ _ decl).trans hrecord),
        ClassDecl.get?_methodReaders, ClassDecl.get?_methodReaders,
        ClassDecl.getters_restrict hnames hmethods hrecord,
        ClassDecl.setters_restrict hnames hmethods hrecord,
        ClassDecl.fieldWriters_restrict hrecord hfields]
  have hclass : (build owner (decl.restrict keepMethod keepField)).className =
      (build owner decl).className := ClassDecl.name_restrict keepMethod keepField decl
  rw [writer, writer, hwriters, hclass]

end Kept

/-- **Properties are independent of each other.**  Where no separator stands in the name of a
method or of a nominal type, a property is read and written just as before, or just as little,
after everything that is no member of it has been left out of every layer. -/
theorem accessors_independent (owner : TypeKey) (decl : ClassDecl) (hnames : decl.SeparatorFree)
    (property : String) :
    (build owner (decl.only property)).reader property = (build owner decl).reader property ∧
      (build owner (decl.only property)).writer property = (build owner decl).writer property :=
  ⟨reader_restrict hnames (fun _ h => h) fun _ h => h,
    writer_restrict hnames (fun _ h => h) fun _ h => h⟩

/-- An account has a code, which is set from a text or a number, and an owner, of whom
everything that is owned knows the kind only as a parameter. -/
def account : ClassDecl :=
  let owned := { ClassDecl.empty "Owned" with
    params := ["T"]
    methods := [⟨"getOwner", [], .var "T", false, .read (.slot "owner")⟩,
      ⟨"setCode", [.long], .void, false, .write ⟨"code", .long⟩⟩]
    fields := [⟨"code", .long, false, false, .slot "code", none⟩] }
  { ClassDecl.empty "Account" with
    superclass := some ⟨owned, [.string]⟩
    methods := [⟨"setCode", [.string], .void, false, .write ⟨"code", .string⟩⟩,
      ⟨"isOpen", [], .boolean, false, .read (.slot "open")⟩] }

/-- Without its owner an account has the same code, which two setters are in conflict about. -/
theorem accessors_independent_account :
    account.SeparatorFree ∧
    (build ⟨0, "Account"⟩ account).hasGetter "owner" = true ∧
    (build ⟨0, "Account"⟩ (account.only "code")).hasGetter "owner" = false ∧
    (build ⟨0, "Account"⟩ (account.only "code")).reader "code" =
      .ok (.field "code" .long (.read (.slot "code"))) ∧
    ∃ conflict, (build ⟨0, "Account"⟩ (account.only "code")).writer "code" =
      .ok (.ambiguous .string conflict) ∧
        conflict.candidates = ["Account.setCode(String): void", "Owned.setCode(long): void"] := by
  have hnames : account.SeparatorFree := by decide +kernel
  obtain ⟨hread, hwrite⟩ := accessors_independent ⟨0, "Account"⟩ account hnames "code"
  refine ⟨hnames, rfl, rfl, hread.trans rfl, _, hwrite.trans rfl, by decide⟩

end PropertyTable

end DynamicSql

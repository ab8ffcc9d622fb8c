import DynamicSql.Proofs.Property.Contents

/-!
# The components of a record

A record is read through its methods without arguments, each under its own name.  Those of
one name that differ in their raw return type are all discovered, and the last of them is
taken (`get?_componentReaders`).  So a component that the record declares itself is read only
where no supertype declares it with another raw return type (`component_read`); otherwise an
inherited one is read in its place (`component_hidden`).
-/

namespace DynamicSql

namespace MethodDecl

variable {method other : MethodDecl} {name : String}

/-- Whether a method is a component of a record: it takes no arguments, has the name and does
not only forward. -/
def isComponent (name : String) (method : MethodDecl) : Bool :=
  !method.bridge && method.params.isEmpty && method.name == name

/-- The text of the raw return type. -/
def rawReturns (method : MethodDecl) : String := method.returns.erased.text

theorem isComponent_iff : method.isComponent name = true ↔
    method.bridge = false ∧ method.params = [] ∧ method.name = name := by
  simp [isComponent, and_assoc]

/-- A component's signature is its raw return type and its name. -/
theorem signature_of_isComponent (h : method.isComponent name = true) :
    method.signature = method.rawReturns ++ "#" ++ name := by
  obtain ⟨-, hparams, hname⟩ := isComponent_iff.1 h
  rw [signature, hparams, hname]
  rfl

/-- What has the signature of a component is one, with the same raw return type. -/
theorem SeparatorFree.isComponent_congr (h : method.SeparatorFree) (h' : other.SeparatorFree)
    (hsame : other.signature = method.signature) (hbridge : other.bridge = false)
    (hcomponent : method.isComponent name = true) :
    other.isComponent name = true ∧ other.rawReturns = method.rawReturns := by
  obtain ⟨-, hparams, hname⟩ := isComponent_iff.1 hcomponent
  obtain ⟨hreturns, hnames, htexts⟩ := signature_inj h' h hsame
  have hempty : other.params = [] := by
    simpa [paramTexts, hparams] using htexts
  exact ⟨isComponent_iff.2 ⟨hbridge, hempty, hnames.trans hname⟩, hreturns⟩

end MethodDecl

open MethodDecl

namespace ClassDecl

variable {decl : ClassDecl} {name : String} {own : MethodDecl} {found : Discovered}

/-- The components of a name, in the order of discovery. -/
def components (decl : ClassDecl) (name : String) : List Discovered :=
  decl.discovered.filter fun found => found.method.isComponent name

theorem bridge_of_mem_allMethods (h : found ∈ decl.allMethods) : found.method.bridge = false := by
  obtain ⟨-, -, -, hbridge, -⟩ := mem_allMethods.1 h
  exact hbridge

/-- The last component of a name is read under it. -/
theorem get?_componentReaders (decl : ClassDecl) (name : String) :
    decl.componentReaders.get? name = (decl.components name).getLast?.map (readerOf name) := by
  have hcomponents : decl.components name =
      (decl.discovered.filter fun found => found.method.params.isEmpty).filter
        fun found => found.method.name == name := by
    rw [components, List.filter_filter]
    refine List.filter_congr fun found hfound => ?_
    rw [isComponent, bridge_of_mem_allMethods (mem_allMethods_of_mem_discovered hfound),
      Bool.not_false, Bool.true_and, Bool.and_comm]
  unfold componentReaders Entries.ofList
  rw [List.foldl_map, Entries.get?_foldl_put (fun found : Discovered => found.method.name)
    fun found => readerOf found.method.name found]
  rw [Entries.get?_nil, Option.or_none, ← List.head?_filter, List.filter_reverse,
    List.head?_reverse, ← hcomponents]
  refine Option.map_congr fun found hfound => ?_
  have hmem := (List.mem_filter.1 (List.mem_of_getLast? hfound)).2
  rw [(isComponent_iff.1 hmem).2.2]

/-- The methods of the class itself are discovered before all others. -/
theorem allMethods_eq (decl : ClassDecl) :
    ∃ inherited, decl.allMethods = layerMethods decl.bottom ++ inherited := by
  unfold allMethods methodLayers fieldLayers
  rw [chain_eq, List.flatMap_cons, List.cons_append, List.flatMap_cons]
  exact ⟨_, rfl⟩

/-- The first component of a name that a class declares is the first to be discovered. -/
theorem head?_components (hnames : decl.SeparatorFree)
    (hown : decl.methods.find? (isComponent name) = some own) :
    (decl.components name).head? = some ⟨own, decl.name, []⟩ := by
  have hsignature : ∀ found ∈ decl.allMethods, ∀ other ∈ decl.allMethods,
      found.method.signature = other.method.signature →
        found.method.isComponent name = other.method.isComponent name := by
    intro found hfound other hother hsame
    have hfree := hnames.of_mem hfound
    have hfree' := hnames.of_mem hother
    refine Bool.eq_iff_iff.2 ⟨fun h => ?_, fun h => ?_⟩
    · exact (hfree.isComponent_congr hfree' hsame.symm (bridge_of_mem_allMethods hother) h).1
    · exact (hfree'.isComponent_congr hfree hsame (bridge_of_mem_allMethods hfound) h).1
  have hlayer : (layerMethods decl.bottom).find? (fun found => found.method.isComponent name) =
      some ⟨own, decl.name, []⟩ := by
    have hkept : (decl.methods.filter fun method => !method.bridge).find? (isComponent name) =
        some own := by
      rw [find?_filter_of_imp, hown]
      intro method _ hcomponent
      rw [(isComponent_iff.1 hcomponent).1, Bool.not_false]
    unfold layerMethods
    rw [List.find?_map]
    exact congrArg (Option.map _) hkept
  obtain ⟨inherited, hinherited⟩ := allMethods_eq decl
  rw [components, List.head?_filter]
  refine (find?_firsts_of_congr hsignature).trans ?_
  rw [hinherited, List.find?_append, hlayer, Option.some_or]

variable {first : Discovered} {others : List Discovered}

/-- Components of one name that are both discovered differ in their raw return types. -/
theorem rawReturns_ne (h : decl.components name = first :: others) :
    ∀ other ∈ others, other.method.rawReturns ≠ first.method.rawReturns := by
  intro other hother hsame
  have hdistinct : (first :: others).Pairwise
      fun found other => found.method.signature ≠ other.method.signature :=
    h ▸ (pairwise_firsts _ _).sublist List.filter_sublist
  have hcomponent : ∀ found ∈ first :: others, found.method.isComponent name = true := by
    intro found hfound
    rw [← h] at hfound
    exact (List.mem_filter.1 hfound).2
  refine (List.pairwise_cons.1 hdistinct).1 other hother ?_
  rw [signature_of_isComponent (hcomponent first List.mem_cons_self),
    signature_of_isComponent (hcomponent other (List.mem_cons_of_mem _ hother)), hsame]

/-- Whether every component of a name that the hierarchy declares has a raw return type. -/
def AllReturn (decl : ClassDecl) (name returns : String) : Prop :=
  ∀ layer, decl.HasLayer layer → ∀ method ∈ layer.decl.methods,
    method.isComponent name = true → method.rawReturns = returns

instance (decl : ClassDecl) (name returns : String) : Decidable (decl.AllReturn name returns) :=
  decidable_of_iff (∀ layer ∈ decl.methodLayers, ∀ method ∈ layer.decl.methods,
      method.isComponent name = true → method.rawReturns = returns)
    (forall_congr' fun _ => by rw [mem_methodLayers])

/-- One component is discovered exactly if all that are declared have its raw return type. -/
theorem eq_nil_iff_allReturn (hnames : decl.SeparatorFree)
    (h : decl.components name = first :: others) :
    others = [] ↔ decl.AllReturn name first.method.rawReturns := by
  constructor
  · rintro rfl layer hlayer method hmethod hcomponent
    have hdeclared : ⟨method, layer.decl.name, layer.env⟩ ∈ decl.allMethods :=
      mem_allMethods.2 ⟨layer, hlayer, hmethod, (isComponent_iff.1 hcomponent).1, rfl⟩
    obtain ⟨kept, hkept, hsame⟩ :=
      exists_mem_firsts (fun found : Discovered => found.method.signature) hdeclared
    have hkept_declared := mem_allMethods_of_mem_discovered hkept
    obtain ⟨hkept_component, hreturns⟩ := (hnames.of_mem hdeclared).isComponent_congr
      (hnames.of_mem hkept_declared) hsame (bridge_of_mem_allMethods hkept_declared) hcomponent
    have hmem : kept ∈ decl.components name := List.mem_filter.2 ⟨hkept, hkept_component⟩
    rw [h, List.mem_singleton] at hmem
    rw [← hmem, hreturns]
  · intro hall
    refine List.eq_nil_iff_forall_not_mem.2 fun other hother => ?_
    have hmem : other ∈ decl.components name := h ▸ List.mem_cons_of_mem _ hother
    obtain ⟨hdiscovered, hcomponent⟩ := List.mem_filter.1 hmem
    obtain ⟨layer, hlayer, hmethod, -⟩ :=
      mem_allMethods.1 (mem_allMethods_of_mem_discovered hdiscovered)
    exact rawReturns_ne h other hother (hall layer hlayer other.method hmethod hcomponent)

end ClassDecl

/-! ## Tables -/

namespace PropertyTable

variable {owner : TypeKey} {decl : ClassDecl} {name : String}

/-- A record is read through its components and is never written. -/
theorem get?_readers_record (hrecord : decl.isRecord = true) :
    (build owner decl).readers.get? name =
      (decl.components name).getLast?.map (readerOf name) := by
  unfold build
  simp only [hrecord, if_true]
  exact ClassDecl.get?_componentReaders decl name

/-- **Which component of a record is read.**  A component that a record declares itself, the
first of its name, is read if every component of that name in the hierarchy has its raw return
type.  If one has another, the last of those that are discovered is read, which has another raw
return type than the record's own. -/
theorem component_read (owner : TypeKey) (decl : ClassDecl) (hrecord : decl.isRecord = true)
    (hnames : decl.SeparatorFree) (name : String) (own : MethodDecl)
    (hown : decl.methods.find? (isComponent name) = some own) :
    (decl.AllReturn name own.rawReturns →
      (build owner decl).reader name = .ok (readerOf name ⟨own, decl.name, []⟩)) ∧
    (¬ decl.AllReturn name own.rawReturns → ∃ last,
      (decl.components name).getLast? = some last ∧ last.method.rawReturns ≠ own.rawReturns ∧
        (build owner decl).reader name = .ok (readerOf name last)) := by
  obtain ⟨others, hcomponents⟩ :=
    List.head?_eq_some_iff.1 (ClassDecl.head?_components hnames hown)
  have hall := ClassDecl.eq_nil_iff_allReturn hnames hcomponents
  simp only [reader_eq_ok, get?_readers_record hrecord]
  constructor
  · intro hreturn
    rw [hcomponents, hall.2 hreturn]
    rfl
  · intro hother
    have hne : others ≠ [] := fun hnil => hother (hall.1 hnil)
    obtain ⟨last, hlast⟩ := Option.isSome_iff_exists.1 (List.getLast?_isSome.2 hne)
    have hcomponents_last : (decl.components name).getLast? = some last := by
      rw [hcomponents, List.getLast?_cons, hlast]
      rfl
    refine ⟨last, hcomponents_last, ?_, by rw [hcomponents_last, Option.map_some]⟩
    exact ClassDecl.rawReturns_ne hcomponents last (List.mem_of_getLast? hlast)

/-- A method without arguments that yields what is in a slot. -/
def componentOf (slot name : String) (returns : DeclaredType) : MethodDecl :=
  ⟨name, [], returns, false, .read (.slot slot)⟩

/-- A badge has a name and a number, as has everything that is labelled with something. -/
def badge : ClassDecl :=
  let labelled := { ClassDecl.empty "Labelled" with
    params := ["T"]
    methods := [componentOf "inherited" "name" (.var "T"),
      componentOf "inherited" "number" .long] }
  { ClassDecl.empty "Badge" with
    isRecord := true
    interfaces := [⟨labelled, [.string]⟩]
    methods := [componentOf "own" "name" .string, componentOf "own" "number" .long] }

/-- A badge tells its own number, but the name that it inherits. -/
theorem component_read_badge :
    badge.isRecord = true ∧ badge.SeparatorFree ∧
    badge.methods.find? (isComponent "number") = some (componentOf "own" "number" .long) ∧
    badge.AllReturn "number" "long" ∧
    (build ⟨0, "Badge"⟩ badge).reader "number" =
      .ok (.method "number" .long (.read (.slot "own"))) ∧
    badge.methods.find? (isComponent "name") = some (componentOf "own" "name" .string) ∧
    ¬ badge.AllReturn "name" "String" ∧
    ∃ last, last.method.rawReturns ≠ "String" ∧
      (build ⟨0, "Badge"⟩ badge).reader "name" = .ok (readerOf "name" last) := by
  have hnames : badge.SeparatorFree := by decide +kernel
  have hnumber : badge.AllReturn "number" "long" := by decide +kernel
  have hname : ¬ badge.AllReturn "name" "String" := by decide +kernel
  obtain ⟨hown, -⟩ := component_read ⟨0, "Badge"⟩ badge rfl hnames "number"
    (componentOf "own" "number" .long) rfl
  obtain ⟨-, hinherited⟩ := component_read ⟨0, "Badge"⟩ badge rfl hnames "name"
    (componentOf "own" "name" .string) rfl
  obtain ⟨last, -, hreturns, hread⟩ := hinherited hname
  exact ⟨rfl, hnames, rfl, hnumber, hown hnumber, rfl, hname, last, hreturns, hread⟩

/-- A component that a record declares itself need not be the one that is read. -/
theorem component_hidden :
    ¬ ∀ (owner : TypeKey) (decl : ClassDecl), decl.isRecord = true →
      ∀ (name : String) (own : MethodDecl), decl.methods.find? (isComponent name) = some own →
        (build owner decl).reader name = .ok (readerOf name ⟨own, decl.name, []⟩) := by
  intro h
  have hinherited : (build ⟨0, "Badge"⟩ badge).reader "name" =
    .ok (.method "name" .string (.read (.slot "inherited"))) := rfl
  have hown := h ⟨0, "Badge"⟩ badge rfl "name" (componentOf "own" "name" .string) rfl
  have hsame := Except.ok.inj (hinherited.symm.trans hown)
  simp [readerOf, componentOf] at hsame

end PropertyTable

end DynamicSql

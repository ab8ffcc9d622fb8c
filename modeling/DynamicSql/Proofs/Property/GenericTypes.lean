import DynamicSql.Proofs.Classes.Chains
import DynamicSql.Proofs.Property.Independence
import DynamicSql.Proofs.Property.Setters
import DynamicSql.Property.Contributions

/-!
# The types of properties in generic hierarchies

Every accessor that is registered is made from a declaration in a layer of the hierarchy, and
its type is what the declared type means to the class, along the chain of supertypes that leads
to the layer (`PropertyTable.generic_types_resolve`).
-/

namespace DynamicSql

open Supertype

/-- A declared type resolves to what the types for the parameters of its layer make of it. -/
theorem DeclaredType.ResolvesTo.of_env {env : TypeEnv} {chain : List Supertype}
    (henv : env = envAlong chain) (declared : DeclaredType) :
    declared.ResolvesTo chain (declared.bind env).erased := by
  rw [henv, erased_bind_envAlong]
  exact {
    resolved := rfl
    closed := typeVariables_resolveAlong chain declared
    renamed := fun _ hnames => resolveAlong_rename hnames chain declared }

/-! ## What accessors are made of -/

/-- The winner of a comparison of getters is one of them. -/
theorem chooseGetter_winner_mem (first : Discovered) (rest : List Discovered) :
    (chooseGetter first rest).winner ∈ first :: rest := by
  induction rest generalizing first with
  | nil => exact List.mem_cons_self
  | cons candidate rest ih =>
    rcases Discovered.chooseGetter_cons first candidate rest with
      ⟨-, heq⟩ | ⟨-, heq⟩ | ⟨-, heq⟩
    · rw [heq]
      exact List.cons_subset_cons first (List.subset_cons_self candidate rest) (ih first)
    · rw [heq]
      exact List.mem_cons_of_mem _ (ih candidate)
    · rw [heq]
      exact List.mem_cons_self

variable {property : String} {accessor : Accessor}

/-- The read accessor of several getters is made of one of them and has its type. -/
theorem resolveGetter_madeOf {getters : List Discovered}
    (h : resolveGetter property getters = some accessor) :
    ∃ found ∈ getters, accessor.MadeOf property found.method found.className ∧
      accessor.valueType = found.returnType := by
  cases getters with
  | nil => cases h
  | cons first rest =>
    refine ⟨_, chooseGetter_winner_mem first rest, ?_⟩
    cases h
    unfold GetterChoice.accessor
    split
    · exact ⟨.call _, rfl⟩
    · exact ⟨.conflict _ rfl rfl, rfl⟩

/-- The write accessor of several setters is made of one of them and has its type. -/
theorem resolveSetter_madeOf {reader : Option Accessor} {setters : List Discovered}
    (h : resolveSetter property reader setters = some accessor) :
    ∃ found ∈ setters, accessor.MadeOf property found.method found.className ∧
      accessor.valueType = found.paramType := by
  unfold resolveSetter at h
  rw [chooseSetter_eq] at h
  split at h
  · rename_i exact hexact
    cases h
    exact ⟨exact, List.mem_of_find?_eq_some hexact, .call _, rfl⟩
  · change (SetterChoice.ofSetters setters).accessor? property = some accessor at h
    cases hchoice : SetterChoice.ofSetters setters with
    | undecided =>
      rw [hchoice] at h
      cases h
    | best found =>
      rw [hchoice] at h
      cases h
      exact ⟨found, SetterChoice.mem_of_best hchoice, .call _, rfl⟩
    | conflict first second =>
      rw [hchoice] at h
      cases h
      have hsublist := (SetterChoice.refuses_of_conflict hchoice).1
      exact ⟨first, hsublist.subset List.mem_cons_self, .conflict _ rfl rfl, rfl⟩

/-! ## Where they are declared -/

namespace ClassDecl

variable {decl : ClassDecl} {found : Discovered}

/-- A chain leads to the layer of each discovered method. -/
theorem exists_discovers (h : found ∈ decl.discovered) :
    ∃ chain layer, decl.Discovers chain layer found.method ∧ layer.name = found.className ∧
      found.env = envAlong chain := by
  obtain ⟨layer, hlayer, hmethod, -, hfound⟩ :=
    mem_allMethods.1 (mem_allMethods_of_mem_discovered h)
  obtain ⟨chain, hreached, henv⟩ := hlayer.exists_chain
  rw [henv] at hfound
  rw [hfound] at h
  exact ⟨chain, layer.decl, ⟨hreached, hmethod, h⟩, by rw [hfound], by rw [hfound]⟩

/-- A chain leads to the layer of each visible field. -/
theorem exists_sees {nearest : LayeredField}
    (h : Layer.NearestField property decl.bottom nearest) :
    ∃ chain layer, decl.Sees chain layer nearest.field ∧ nearest.env = envAlong chain := by
  have hfind := Layer.find?_allFields.2 h
  have hmem := List.mem_of_find?_eq_some hfind
  have hvisible : nearest ∈ decl.visibleFields :=
    List.mem_of_find?_eq_some ((find?_firsts _ _ property).trans hfind)
  obtain ⟨layer, hlayer, hown⟩ := List.mem_flatMap.1 hmem
  obtain ⟨field, hfield, rfl⟩ := List.mem_map.1 hown
  obtain ⟨chain, hinherited, henv⟩ := exists_chain_of_ancestor (Layer.mem_chain.1 hlayer)
  rw [henv] at hvisible
  exact ⟨chain, layer.decl, ⟨hinherited, hfield, hvisible⟩, henv⟩

/-- What is read through a discovered method has the declared return type. -/
theorem readThrough_method (hfound : found ∈ decl.discovered)
    (hreads : found.method.reads decl.isRecord property = true)
    (hmade : accessor.MadeOf property found.method found.className)
    (htype : accessor.valueType = found.returnType) :
    ∃ chain declared, decl.ReadThrough property chain declared accessor ∧
      declared.ResolvesTo chain accessor.valueType := by
  obtain ⟨chain, layer, hdiscovers, hname, henv⟩ := exists_discovers hfound
  rw [← hname] at hmade
  refine ⟨chain, found.method.returns, .method hdiscovers hreads hmade, ?_⟩
  rw [htype]
  exact .of_env henv found.method.returns

/-- What is written through a discovered method has the declared type of its parameter. -/
theorem writtenThrough_method (hfound : found ∈ decl.discovered)
    (hwrites : found.method.writes decl.isRecord property = true)
    (hmade : accessor.MadeOf property found.method found.className)
    (htype : accessor.valueType = found.paramType) :
    ∃ chain declared, decl.WrittenThrough property chain declared accessor ∧
      declared.ResolvesTo chain accessor.valueType := by
  obtain ⟨chain, layer, hdiscovers, hname, henv⟩ := exists_discovers hfound
  rw [← hname] at hmade
  have hlength : found.method.params.length = 1 := by
    simp only [MethodDecl.writes, Bool.and_eq_true, beq_iff_eq] at hwrites
    exact hwrites.1.1.2
  obtain ⟨param, hparam⟩ := List.length_eq_one_iff.1 hlength
  refine ⟨chain, param, .method hdiscovers hwrites hparam hmade, ?_⟩
  rw [htype, Discovered.paramType, hparam]
  exact .of_env henv param

theorem readThrough_getters (hrecord : decl.isRecord = false)
    (h : resolveGetter property (decl.getters property) = some accessor) :
    ∃ chain declared, decl.ReadThrough property chain declared accessor ∧
      declared.ResolvesTo chain accessor.valueType := by
  obtain ⟨found, hfound, hmade, htype⟩ := resolveGetter_madeOf h
  unfold getters candidates at hfound
  rw [List.filter_filter, List.mem_filter] at hfound
  have hreads := reads_of_isGetter hfound.1 hfound.2
  rw [← hrecord] at hreads
  exact readThrough_method hfound.1 hreads hmade htype

theorem writtenThrough_setters (hrecord : decl.isRecord = false) {reader : Option Accessor}
    (h : resolveSetter property reader (decl.setters property) = some accessor) :
    ∃ chain declared, decl.WrittenThrough property chain declared accessor ∧
      declared.ResolvesTo chain accessor.valueType := by
  obtain ⟨found, hfound, hmade, htype⟩ := resolveSetter_madeOf h
  unfold setters candidates at hfound
  rw [List.filter_filter, List.mem_filter] at hfound
  have hwrites := writes_of_isSetter hfound.1 hfound.2
  rw [← hrecord] at hwrites
  exact writtenThrough_method hfound.1 hwrites hmade htype

theorem readThrough_components (hrecord : decl.isRecord = true)
    (h : (decl.components property).getLast?.map (readerOf property) = some accessor) :
    ∃ chain declared, decl.ReadThrough property chain declared accessor ∧
      declared.ResolvesTo chain accessor.valueType := by
  obtain ⟨found, hlast, rfl⟩ := Option.map_eq_some_iff.1 h
  obtain ⟨hfound, hcomponent⟩ := List.mem_filter.1 (List.mem_of_getLast? hlast)
  have hreads : found.method.reads decl.isRecord property = true := by
    rw [hrecord]
    exact reads_of_isComponent hcomponent
  exact readThrough_method hfound hreads (.call _) rfl

theorem readThrough_fields (h : decl.fieldReaders.get? property = some accessor) :
    ∃ chain declared, decl.ReadThrough property chain declared accessor ∧
      declared.ResolvesTo chain accessor.valueType := by
  obtain ⟨-, nearest, hnearest, hreader⟩ := get?_fieldReaders.1 h
  obtain ⟨chain, layer, hsees, henv⟩ := exists_sees hnearest
  obtain rfl := hnearest.name_eq
  cases hreader
  exact ⟨chain, nearest.field.type, .field hsees rfl _, .of_env henv _⟩

theorem writtenThrough_fields (h : decl.fieldWriters.get? property = some accessor) :
    ∃ chain declared, decl.WrittenThrough property chain declared accessor ∧
      declared.ResolvesTo chain accessor.valueType := by
  obtain ⟨-, nearest, hnearest, hwriter⟩ := get?_fieldWriters.1 h
  obtain ⟨-, body, hbody, rfl⟩ := writer?_eq_some.1 hwriter
  obtain ⟨chain, layer, hsees, henv⟩ := exists_sees hnearest
  obtain rfl := hnearest.name_eq
  exact ⟨chain, nearest.field.type, .field hsees rfl hbody _, .of_env henv _⟩

end ClassDecl

/-! ## Tables -/

namespace PropertyTable

/-- **Generic types resolve along the chains of supertypes.**  Whatever a property is read or
written through is declared in a layer that a chain of supertypes leads to from the class, and
the property's type is what the declared type means to the class: each type variable is replaced
by its argument, resolved in the same way in the layer below.  So no type variable is left, and
it makes no difference whether layers call their parameters alike. -/
theorem generic_types_resolve (owner : TypeKey) (decl : ClassDecl) (property : String) :
    (∀ accessor, (build owner decl).reader property = .ok accessor →
      (build owner decl).getterType property = .ok accessor.valueType ∧
      ∃ chain declared, decl.ReadThrough property chain declared accessor ∧
        declared.ResolvesTo chain accessor.valueType) ∧
    ∀ accessor, (build owner decl).writer property = .ok accessor →
      (build owner decl).setterType property = .ok accessor.valueType ∧
      ∃ chain declared, decl.WrittenThrough property chain declared accessor ∧
        declared.ResolvesTo chain accessor.valueType := by
  refine ⟨fun accessor hreader => ⟨?_, ?_⟩, fun accessor hwriter => ⟨?_, ?_⟩⟩
  · rw [getterType, hreader]
    rfl
  · have hget := reader_eq_ok.1 hreader
    cases hrecord : decl.isRecord with
    | true =>
      rw [get?_readers_record hrecord] at hget
      exact ClassDecl.readThrough_components hrecord hget
    | false =>
      rw [get?_readers hrecord, Option.or_eq_some_iff] at hget
      rcases hget with hmethod | ⟨-, hfield⟩
      · exact ClassDecl.readThrough_getters hrecord hmethod
      · exact ClassDecl.readThrough_fields hfield
  · rw [setterType, hwriter]
    rfl
  · have hget := writer_eq_ok.1 hwriter
    cases hrecord : decl.isRecord with
    | true =>
      simp only [build, hrecord, if_true] at hget
      cases hget
    | false =>
      rw [get?_writers hrecord, Option.or_eq_some_iff] at hget
      rcases hget with hmethod | ⟨-, hfield⟩
      · exact ClassDecl.writtenThrough_setters hrecord hmethod
      · exact ClassDecl.writtenThrough_fields hfield

/-- A mailing is a batch of texts, and a batch is a box with a list in it.  The parameter of the
batch has the name of a parameter of the box; for the other one, the label's, there is no
argument. -/
def mailing : ClassDecl :=
  let box := { ClassDecl.empty "Box" with
    params := ["T", "L"]
    methods := [⟨"getContent", [], .var "T", false, .read (.slot "content")⟩,
      ⟨"setContent", [.var "T"], .void, false, .write ⟨"content", .any⟩⟩]
    fields := [⟨"label", .var "L", false, false, .slot "label", none⟩] }
  let batch := { ClassDecl.empty "Batch" with
    params := ["T"]
    superclass := some ⟨box, [.list (.var "T")]⟩ }
  { ClassDecl.empty "Mailing" with superclass := some ⟨batch, [.string]⟩ }

/-- The content of a mailing is a list of texts, for getting and for setting, and its label may
be anything. -/
theorem generic_types_resolve_mailing :
    (∃ getter, (build ⟨0, "Mailing"⟩ mailing).reader "content" = .ok getter ∧
      (build ⟨0, "Mailing"⟩ mailing).getterType "content" = .ok (.list .string) ∧
      ∃ chain declared, mailing.ReadThrough "content" chain declared getter ∧
        declared.ResolvesTo chain (.list .string)) ∧
    (∃ setter, (build ⟨0, "Mailing"⟩ mailing).writer "content" = .ok setter ∧
      (build ⟨0, "Mailing"⟩ mailing).setterType "content" = .ok (.list .string) ∧
      ∃ chain declared, mailing.WrittenThrough "content" chain declared setter ∧
        declared.ResolvesTo chain (.list .string)) ∧
    (build ⟨0, "Mailing"⟩ mailing).getterType "label" = .ok .any := by
  refine ⟨⟨_, rfl, ?_⟩, ⟨_, rfl, ?_⟩, rfl⟩
  · exact (generic_types_resolve ⟨0, "Mailing"⟩ mailing "content").1 _ rfl
  · exact (generic_types_resolve ⟨0, "Mailing"⟩ mailing "content").2 _ rfl

end PropertyTable

end DynamicSql

import DynamicSql.Proofs.Classes.Discovery

/-!
# The contents of a property table

A table holds what the hierarchy of the class declares: a property can be read
through a getter or else through the nearest field of its name, and written
through a setter or else through that same field, where the field can be written.
Nothing else is in the table, and no declared property is missing.
-/

namespace DynamicSql

/-! ## Looking up what was made key by key -/

namespace Entries

variable {α β : Type}

/-- Entries made from items with distinct keys hold under a key what its item gives. -/
theorem get?_filterMap {key : α → String} (f : α → Option β) {items : List α}
    (hdistinct : items.Pairwise fun a b => key a ≠ key b) (name : String) :
    get? (items.filterMap fun item => (f item).map (key item, ·)) name =
      (items.find? fun item => key item == name).bind f := by
  induction items with
  | nil => rfl
  | cons first rest ih =>
    rw [List.pairwise_cons] at hdistinct
    by_cases hkey : key first = name
    · rw [List.find?_cons_of_pos (by simpa using hkey), Option.bind_some]
      cases hf : f first with
      | some value => simp [hf, get?, hkey]
      | none =>
        -- no later item has the key, so there is nothing to find behind it either
        have hnone : rest.find? (fun item => key item == name) = none := by
          rw [List.find?_eq_none]
          intro item hitem
          simpa [← hkey] using Ne.symm (hdistinct.1 item hitem)
        rw [List.filterMap_cons_none (by simp [hf]), ih hdistinct.2, hnone]
        rfl
    · rw [List.find?_cons_of_neg (by simpa using hkey), ← ih hdistinct.2]
      cases hf : f first with
      | some value => simp [hf, get?, hkey]
      | none => simp [hf]

/-- `get?_filterMap` for the first item of each key. -/
theorem get?_filterMap_firsts (key : α → String) (f : α → Option β) (items : List α)
    (name : String) :
    get? ((firsts key items).filterMap fun item => (f item).map (key item, ·)) name =
      (items.find? fun item => key item == name).bind f := by
  rw [get?_filterMap f (pairwise_firsts key items), find?_firsts]

end Entries

/-! ## What methods give -/

theorem candidates_ne_nil {found : List Discovered} {property : String} :
    candidates found property ≠ [] ↔
      ∃ candidate ∈ found, candidate.property? = some property := by
  unfold candidates
  rw [Ne, List.filter_eq_nil_iff]
  simp

/-- Methods that are resolved property by property give for each what its candidates
are resolved to. -/
theorem get?_resolved (resolve : String → List Discovered → Option Accessor)
    (hnil : ∀ property, resolve property [] = none) (found : List Discovered)
    (property : String) :
    Entries.get? ((properties found).filterMap fun property =>
      (resolve property (candidates found property)).map (property, ·)) property =
        resolve property (candidates found property) := by
  have hget := Entries.get?_filterMap_firsts id
    (fun property => resolve property (candidates found property))
    (found.filterMap Discovered.property?) property
  refine hget.trans ?_
  cases hfind : (found.filterMap Discovered.property?).find? fun item => id item == property with
  | some item =>
    have hitem : item = property := by simpa using List.find?_some hfind
    rw [hitem]
    rfl
  | none =>
    -- a property that no method stands for has no candidates
    have hnone : candidates found property = [] := by
      unfold candidates
      rw [List.filter_eq_nil_iff]
      intro candidate hmem hcandidate
      have hproperty : candidate.property? = some property := by simpa using hcandidate
      rw [List.find?_eq_none] at hfind
      exact hfind property (List.mem_filterMap.2 ⟨candidate, hmem, hproperty⟩) (by simp)
    rw [hnone, hnil]
    rfl

theorem resolveGetter_isSome {property : String} {getters : List Discovered} :
    (resolveGetter property getters).isSome ↔ getters ≠ [] := by
  cases getters <;> simp [resolveGetter]

theorem SetterChoice.add_ne_undecided {choice : SetterChoice} {candidate : Discovered} :
    choice.add candidate ≠ .undecided := by
  unfold add
  split
  · simp
  · split
    · simp
    · split <;> simp
  · simp

/-- Comparing setters decides for something as soon as there is one. -/
theorem chooseSetter_ne_undecided {wanted : Option DeclaredType} {choice : SetterChoice}
    {setters : List Discovered} (h : choice ≠ .undecided ∨ setters ≠ []) :
    chooseSetter wanted choice setters ≠ .undecided := by
  induction setters generalizing choice with
  | nil =>
    rw [chooseSetter]
    exact h.resolve_right fun hne => hne rfl
  | cons candidate rest ih =>
    rw [chooseSetter]
    split
    · simp
    · exact ih (.inl SetterChoice.add_ne_undecided)

theorem resolveSetter_isSome {property : String} {reader : Option Accessor}
    {setters : List Discovered} :
    (resolveSetter property reader setters).isSome ↔ setters ≠ [] := by
  unfold resolveSetter
  constructor
  · rintro h rfl
    simp [chooseSetter, SetterChoice.accessor?] at h
  · intro hne
    have hchoice : chooseSetter (wantedType reader) .undecided setters ≠ .undecided :=
      chooseSetter_ne_undecided (.inr hne)
    unfold SetterChoice.accessor?
    split
    · rename_i heq
      exact absurd heq hchoice
    · rfl
    · rfl

/-- Whether an accessor is a field. -/
def Accessor.isField : Accessor → Bool
  | .field .. => true
  | _ => false

/-- Methods are never resolved to a field. -/
theorem resolveGetter_isField {property : String} {getters : List Discovered}
    {accessor : Accessor} (h : resolveGetter property getters = some accessor) :
    accessor.isField = false := by
  cases getters with
  | nil => cases h
  | cons first rest =>
    cases h
    unfold GetterChoice.accessor
    split <;> rfl

theorem resolveSetter_isField {property : String} {reader : Option Accessor}
    {setters : List Discovered} {accessor : Accessor}
    (h : resolveSetter property reader setters = some accessor) : accessor.isField = false := by
  unfold resolveSetter SetterChoice.accessor? at h
  split at h <;> cases h <;> rfl

namespace ClassDecl

variable {decl : ClassDecl} {property : String}

/-- The getters of a property, in the order of discovery. -/
def getters (decl : ClassDecl) (property : String) : List Discovered :=
  candidates (decl.discovered.filter Discovered.isGetter) property

/-- The setters of a property, in the order of discovery. -/
def setters (decl : ClassDecl) (property : String) : List Discovered :=
  candidates (decl.discovered.filter Discovered.isSetter) property

theorem get?_methodReaders (decl : ClassDecl) (property : String) :
    decl.methodReaders.get? property = resolveGetter property (decl.getters property) :=
  get?_resolved resolveGetter (fun _ => rfl) _ property

theorem get?_methodWriters (decl : ClassDecl) (property : String) :
    decl.methodWriters.get? property =
      resolveSetter property (decl.methodReaders.get? property) (decl.setters property) :=
  get?_resolved (fun property => resolveSetter property (decl.methodReaders.get? property))
    (fun _ => rfl) _ property

/-- A property has discovered accessors of a shape exactly if one is declared. -/
theorem accessors_ne_nil (h : decl.SeparatorFree) (arity : Nat) (shape : String → Bool) :
    candidates (decl.discovered.filter fun found =>
        found.method.params.length == arity && shape found.method.name) property ≠ [] ↔
      PropertyName.isValid property = true ∧ DeclaresAccessor arity shape decl property := by
  rw [candidates_ne_nil]
  simp only [List.mem_filter, Discovered.property?_eq_some, Bool.and_eq_true, beq_iff_eq]
  constructor
  · rintro ⟨found, ⟨hfound, harity, hshape⟩, hproperty, hvalid⟩
    obtain ⟨layer, hlayer, hmethod, hbridge, -⟩ :=
      mem_allMethods.1 (mem_allMethods_of_mem_discovered hfound)
    exact ⟨hvalid, layer, hlayer, found.method, hmethod, hbridge, harity, hshape, hproperty⟩
  · rintro ⟨hvalid, layer, hlayer, method, hmethod, hbridge, harity, hshape, hproperty⟩
    have hfound : ⟨method, layer.decl.name, layer.env⟩ ∈ decl.allMethods :=
      mem_allMethods.2 ⟨layer, hlayer, hmethod, hbridge, rfl⟩
    obtain ⟨kept, hkept, hname, hlength⟩ := exists_discovered h hfound
    refine ⟨kept, ⟨hkept, ?_, ?_⟩, ?_, hvalid⟩
    · rw [hlength, harity]
    · rw [hname, hshape]
    · rw [hname, hproperty]

theorem getters_ne_nil (h : decl.SeparatorFree) : decl.getters property ≠ [] ↔
    PropertyName.isValid property = true ∧ decl.DeclaresGetter property := by
  have hshape : Discovered.isGetter = fun found =>
      found.method.params.length == 0 && PropertyName.isGetter found.method.name := by
    funext found
    unfold Discovered.isGetter
    cases found.method.params <;> rfl
  unfold getters
  rw [hshape]
  exact accessors_ne_nil h 0 PropertyName.isGetter

theorem setters_ne_nil (h : decl.SeparatorFree) : decl.setters property ≠ [] ↔
    PropertyName.isValid property = true ∧ decl.DeclaresSetter property :=
  accessors_ne_nil h 1 PropertyName.isSetter

end ClassDecl

/-! ## What fields give -/

namespace ClassDecl

open Layer (NearestField)

variable {decl : ClassDecl} {name : String} {accessor : Accessor}

/-- What fields of valid names give is what the nearest field of the name gives. -/
theorem get?_visibleFields (give : LayeredField → Option Accessor) :
    Entries.get? (decl.visibleFields.filterMap fun found =>
      if PropertyName.isValid found.field.name then (give found).map (found.field.name, ·)
      else none) name = some accessor ↔
    PropertyName.isValid name = true ∧
      ∃ found, NearestField name decl.bottom found ∧ give found = some accessor := by
  have hvisible : decl.visibleFields =
      firsts (fun found => found.field.name) decl.bottom.allFields := rfl
  have hguard : (fun found : LayeredField =>
      if PropertyName.isValid found.field.name then (give found).map (found.field.name, ·)
      else none) = fun found =>
        (if PropertyName.isValid found.field.name then give found else none).map
          (found.field.name, ·) := by
    funext found
    split <;> rfl
  rw [hvisible, hguard, Entries.get?_filterMap_firsts, Option.bind_eq_some_iff]
  constructor
  · rintro ⟨found, hfind, hgive⟩
    have hnearest := Layer.find?_allFields.1 hfind
    rw [hnearest.name_eq] at hgive
    split at hgive
    · rename_i hvalid
      exact ⟨hvalid, found, hnearest, hgive⟩
    · cases hgive
  · rintro ⟨hvalid, found, hnearest, hgive⟩
    have hfind := Layer.find?_allFields.2 hnearest
    exact ⟨found, hfind, by rw [hnearest.name_eq, if_pos hvalid, hgive]⟩

theorem get?_fieldReaders : decl.fieldReaders.get? name = some accessor ↔
    PropertyName.isValid name = true ∧
      ∃ found, NearestField name decl.bottom found ∧ some found.reader = some accessor :=
  get?_visibleFields fun found => some found.reader

theorem get?_fieldWriters : decl.fieldWriters.get? name = some accessor ↔
    PropertyName.isValid name = true ∧
      ∃ found, NearestField name decl.bottom found ∧ found.writer? = some accessor :=
  get?_visibleFields LayeredField.writer?

/-- The write accessor of a field that can be written and is no constant. -/
theorem writer?_eq_some {found : LayeredField} : found.writer? = some accessor ↔
    ¬ (found.field.isFinal = true ∧ found.field.isStatic = true) ∧
      ∃ body, found.field.write = some body ∧
        accessor = .field found.field.name found.type (.write body) := by
  unfold LayeredField.writer?
  split
  · rename_i hconstant
    rw [Bool.and_eq_true] at hconstant
    simp [hconstant]
  · rename_i hwritable
    rw [Bool.and_eq_true] at hwritable
    rw [Option.map_eq_some_iff]
    constructor
    · rintro ⟨body, hbody, rfl⟩
      exact ⟨hwritable, body, hbody, rfl⟩
    · rintro ⟨-, body, hbody, rfl⟩
      exact ⟨body, hbody, rfl⟩

theorem fieldReaders_isSome : (decl.fieldReaders.get? name).isSome = true ↔
    PropertyName.isValid name = true ∧ decl.DeclaresField name := by
  have hfield : (∃ found, NearestField name decl.bottom found) ↔ decl.DeclaresField name :=
    Layer.exists_nearestField
  rw [← hfield, Option.isSome_iff_exists]
  constructor
  · rintro ⟨accessor, haccessor⟩
    obtain ⟨hvalid, found, hnearest, -⟩ := get?_fieldReaders.1 haccessor
    exact ⟨hvalid, found, hnearest⟩
  · rintro ⟨hvalid, found, hnearest⟩
    exact ⟨found.reader, get?_fieldReaders.2 ⟨hvalid, found, hnearest, rfl⟩⟩

theorem fieldWriters_isSome : (decl.fieldWriters.get? name).isSome = true ↔
    PropertyName.isValid name = true ∧
      ∃ found, NearestField name decl.bottom found ∧ found.field.write.isSome = true ∧
        ¬ (found.field.isFinal = true ∧ found.field.isStatic = true) := by
  simp only [Option.isSome_iff_exists]
  constructor
  · rintro ⟨accessor, haccessor⟩
    obtain ⟨hvalid, found, hnearest, hwriter⟩ := get?_fieldWriters.1 haccessor
    obtain ⟨hconstant, body, hbody, -⟩ := writer?_eq_some.1 hwriter
    exact ⟨hvalid, found, hnearest, ⟨body, hbody⟩, hconstant⟩
  · rintro ⟨hvalid, found, hnearest, ⟨body, hbody⟩, hconstant⟩
    have hwriter := writer?_eq_some.2 ⟨hconstant, body, hbody, rfl⟩
    exact ⟨_, get?_fieldWriters.2 ⟨hvalid, found, hnearest, hwriter⟩⟩

end ClassDecl

/-! ## Tables -/

namespace PropertyTable

/-- Filling in keeps what is there and adds what is missing. -/
theorem get?_fill (entries more : Entries Accessor) (name : String) :
    (fill entries more).get? name = (entries.get? name).or (more.get? name) := by
  induction more generalizing entries with
  | nil => simp [fill]
  | cons entry rest ih =>
    have hfill : fill entries (entry :: rest) = fill (entries.putNew entry.1 entry.2) rest := rfl
    rw [hfill, ih, Entries.get?_putNew, Option.or_assoc]
    by_cases h : entry.1 = name <;> simp [Entries.get?, h]

variable {owner : TypeKey} {decl : ClassDecl} {property : String} {accessor : Accessor}

/-- A property is read through its getters or else through the nearest field. -/
theorem get?_readers (h : decl.isRecord = false) :
    (build owner decl).readers.get? property =
      (resolveGetter property (decl.getters property)).or (decl.fieldReaders.get? property) := by
  unfold build
  simp only [h, Bool.false_eq_true, if_false]
  rw [get?_fill, ClassDecl.get?_methodReaders]

/-- A property is written through its setters or else through the nearest field. -/
theorem get?_writers (h : decl.isRecord = false) :
    (build owner decl).writers.get? property =
      (resolveSetter property (decl.methodReaders.get? property) (decl.setters property)).or
        (decl.fieldWriters.get? property) := by
  unfold build
  simp only [h, Bool.false_eq_true, if_false]
  rw [get?_fill, ClassDecl.get?_methodWriters]

theorem reader_eq_ok : (build owner decl).reader property = .ok accessor ↔
    (build owner decl).readers.get? property = some accessor := by
  unfold reader
  split <;> simp_all

theorem writer_eq_ok : (build owner decl).writer property = .ok accessor ↔
    (build owner decl).writers.get? property = some accessor := by
  unfold writer
  split <;> simp_all

theorem hasGetter_iff (h : decl.isRecord = false) :
    (build owner decl).hasGetter property = true ↔
      decl.getters property ≠ [] ∨ (decl.fieldReaders.get? property).isSome = true := by
  unfold hasGetter Entries.contains
  rw [get?_readers h, Option.isSome_or, Bool.or_eq_true, resolveGetter_isSome]

theorem hasSetter_iff (h : decl.isRecord = false) :
    (build owner decl).hasSetter property = true ↔
      decl.setters property ≠ [] ∨ (decl.fieldWriters.get? property).isSome = true := by
  unfold hasSetter Entries.contains
  rw [get?_writers h, Option.isSome_or, Bool.or_eq_true, resolveSetter_isSome]

/-- An accessor that is a field comes from the fields, where no method gives any. -/
theorem or_eq_some_field {methods fields : Option Accessor}
    (hmethods : ∀ accessor, methods = some accessor → accessor.isField = false)
    (hfield : accessor.isField = true) :
    methods.or fields = some accessor ↔ ¬ methods.isSome = true ∧ fields = some accessor := by
  cases methods with
  | none => simp
  | some method =>
    have hne : method ≠ accessor := by
      rintro rfl
      rw [hmethods method rfl] at hfield
      cases hfield
    simp [hne]

/-- **A property table holds exactly what the hierarchy declares.**  A property can be
read if its name is valid and a getter or a field of it is declared; it can be written
if its name is valid and a setter is declared or the nearest field of the name can be
written and is no constant.  A field stands behind a property where it is the nearest
of its name and no method is declared for the direction. -/
theorem build_declared (owner : TypeKey) (decl : ClassDecl) (hrecord : decl.isRecord = false)
    (hnames : decl.SeparatorFree) (property : String) :
    ((build owner decl).hasGetter property = true ↔
      PropertyName.isValid property = true ∧
        (decl.DeclaresGetter property ∨ decl.DeclaresField property)) ∧
    ((build owner decl).hasSetter property = true ↔
      PropertyName.isValid property = true ∧
        (decl.DeclaresSetter property ∨
          ∃ found, Layer.NearestField property decl.bottom found ∧
            found.field.write.isSome = true ∧
              ¬ (found.field.isFinal = true ∧ found.field.isStatic = true))) ∧
    (∀ name type body, (build owner decl).reader property = .ok (.field name type body) ↔
      PropertyName.isValid property = true ∧ ¬ decl.DeclaresGetter property ∧
        ∃ found, Layer.NearestField property decl.bottom found ∧
          name = property ∧ type = found.type ∧ body = .read found.field.read) ∧
    (∀ name type body, (build owner decl).writer property = .ok (.field name type body) ↔
      PropertyName.isValid property = true ∧ ¬ decl.DeclaresSetter property ∧
        ∃ found, Layer.NearestField property decl.bottom found ∧
          ¬ (found.field.isFinal = true ∧ found.field.isStatic = true) ∧
          name = property ∧ type = found.type ∧
            ∃ write, found.field.write = some write ∧ body = .write write) := by
  refine ⟨?_, ?_, fun name type body => ?_, fun name type body => ?_⟩
  · rw [hasGetter_iff hrecord, ClassDecl.getters_ne_nil hnames, ClassDecl.fieldReaders_isSome,
      ← and_or_left]
  · rw [hasSetter_iff hrecord, ClassDecl.setters_ne_nil hnames, ClassDecl.fieldWriters_isSome,
      ← and_or_left]
  · rw [reader_eq_ok, get?_readers hrecord,
      or_eq_some_field (fun _ => resolveGetter_isField) rfl, resolveGetter_isSome,
      ClassDecl.getters_ne_nil hnames, ClassDecl.get?_fieldReaders]
    constructor
    · rintro ⟨hgetter, hvalid, found, hnearest, hreader⟩
      cases hreader
      exact ⟨hvalid, fun h => hgetter ⟨hvalid, h⟩, found, hnearest, hnearest.name_eq, rfl, rfl⟩
    · rintro ⟨hvalid, hgetter, found, hnearest, rfl, rfl, rfl⟩
      refine ⟨fun h => hgetter h.2, hvalid, found, hnearest, ?_⟩
      rw [LayeredField.reader, hnearest.name_eq]
  · rw [writer_eq_ok, get?_writers hrecord,
      or_eq_some_field (fun _ => resolveSetter_isField) rfl, resolveSetter_isSome,
      ClassDecl.setters_ne_nil hnames, ClassDecl.get?_fieldWriters]
    constructor
    · rintro ⟨hsetter, hvalid, found, hnearest, hwriter⟩
      obtain ⟨hconstant, write, hwrite, haccessor⟩ := ClassDecl.writer?_eq_some.1 hwriter
      cases haccessor
      exact ⟨hvalid, fun h => hsetter ⟨hvalid, h⟩, found, hnearest, hconstant,
        hnearest.name_eq, rfl, write, hwrite, rfl⟩
    · rintro ⟨hvalid, hsetter, found, hnearest, hconstant, rfl, rfl, write, hwrite, rfl⟩
      refine ⟨fun h => hsetter h.2, hvalid, found, hnearest, ?_⟩
      exact ClassDecl.writer?_eq_some.2 ⟨hconstant, write, hwrite, by rw [hnearest.name_eq]⟩

/-- A kennel has a label through an interface that its interface extends, and its own
number, which cannot be written, hides the number of what it is derived from. -/
def kennel : ClassDecl :=
  let labelled := { ClassDecl.empty "Labelled" with
    methods := [⟨"getLabel", [], .string, false, .read (.slot "label")⟩] }
  let housing := { ClassDecl.empty "Housing" with interfaces := [⟨labelled, []⟩] }
  let building := { ClassDecl.empty "Building" with
    fields := [⟨"number", .long, false, false, .slot "number", some ⟨"number", .long⟩⟩] }
  { ClassDecl.empty "Kennel" with
    superclass := some ⟨building, []⟩
    interfaces := [⟨housing, []⟩]
    fields := [⟨"number", .string, true, false, .slot "number", none⟩] }

/-- The label of a kennel can be read and its number cannot be written. -/
theorem build_declared_kennel :
    kennel.isRecord = false ∧ kennel.SeparatorFree ∧
    (build ⟨0, "Kennel"⟩ kennel).hasGetter "label" = true ∧
    (build ⟨0, "Kennel"⟩ kennel).reader "number" =
      .ok (.field "number" .string (.read (.slot "number"))) ∧
    (build ⟨0, "Kennel"⟩ kennel).hasSetter "number" = false := by
  have hnames : kennel.SeparatorFree := by decide +kernel
  obtain ⟨hlabel, -, -, -⟩ := build_declared ⟨0, "Kennel"⟩ kennel rfl hnames "label"
  obtain ⟨-, hset, hfield, -⟩ := build_declared ⟨0, "Kennel"⟩ kennel rfl hnames "number"
  refine ⟨rfl, hnames, hlabel.2 ⟨rfl, .inl ?_⟩, ?_, ?_⟩
  · show kennel.DeclaresAccessor 0 PropertyName.isGetter "label"
    decide +kernel
  · refine (hfield _ _ _).2 ⟨rfl, ?_, _, .own rfl, rfl, rfl, rfl⟩
    show ¬ kennel.DeclaresAccessor 0 PropertyName.isGetter "number"
    decide +kernel
  · refine Bool.eq_false_iff.2 fun hwritable => ?_
    obtain ⟨-, hsetter | ⟨found, hnearest, hwrite, -⟩⟩ := hset.1 hwritable
    · have hnone : ¬ kennel.DeclaresAccessor 1 PropertyName.isSetter "number" := by decide +kernel
      exact hnone hsetter
    · -- the nearest field is the kennel's own, which cannot be written
      cases hnearest with
      | own h => cases h; cases hwrite
      | inherited hnone => exact hnone _ (.head _) rfl

end PropertyTable

end DynamicSql

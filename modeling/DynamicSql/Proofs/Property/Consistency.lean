import DynamicSql.Proofs.Property.Contents
import DynamicSql.Proofs.Text.ByteOrder
import DynamicSql.Property.Metamodel

/-!
# The maps of a class are consistent

The maps are filled at many places, and every place keeps the types in step with the
accessors.  What they hold at the end is the property table of the class.
-/

namespace DynamicSql

/-! ## Types in step with accessors -/

/-- Whether the types are those of the accessors, name by name, and no name has two. -/
structure PropertyMaps.InStep (maps : PropertyMaps) : Prop where
  types_eq : maps.types = maps.accessors.map fun entry => (entry.1, entry.2.valueType)
  nodup : maps.accessors.keys.Nodup

theorem PropertyMaps.InStep.insert {maps : PropertyMaps} (h : maps.InStep) (name : String)
    {accessor : Accessor} {type : DeclaredType} (htype : accessor.valueType = type) :
    (maps.insert name accessor type).InStep where
  types_eq := by
    unfold PropertyMaps.insert
    rw [h.types_eq, ← htype, Entries.put_map]
  nodup := Entries.nodup_keys_put h.nodup name accessor

/-- Whether the types are in step in both directions. -/
structure Metamodel.InStep (maps : Metamodel) : Prop where
  reading : maps.reading.InStep
  writing : maps.writing.InStep

namespace Metamodel.InStep

variable {maps : Metamodel}

theorem empty : Metamodel.empty.InStep := ⟨⟨rfl, List.nodup_nil⟩, ⟨rfl, List.nodup_nil⟩⟩

theorem addGetMethod (h : maps.InStep) (name : String) (found : Discovered)
    (rival : Option Discovered) : (maps.addGetMethod name found rival).InStep := by
  refine ⟨h.reading.insert name ?_, h.writing⟩
  cases rival <;> rfl

theorem addRecordGetMethods (h : maps.InStep) (methods : List Discovered) :
    (maps.addRecordGetMethods methods).InStep :=
  List.foldlRecOn _ _ h fun _ h found _ => h.addGetMethod found.method.name found none

theorem resolveGetters (h : maps.InStep) (property : String) (getters : List Discovered) :
    (maps.resolveGetters property getters).InStep := by
  cases getters with
  | nil => exact h
  | cons first rest => exact h.addGetMethod property _ _

theorem addGetMethods (h : maps.InStep) (methods : List Discovered) :
    (maps.addGetMethods methods).InStep :=
  List.foldlRecOn _ _ h fun _ h property _ => h.resolveGetters property _

theorem addSetMethod (h : maps.InStep) (name : String) (found : Discovered) :
    (maps.addSetMethod name found).InStep :=
  ⟨h.reading, h.writing.insert name rfl⟩

theorem pickBetterSetter (h : maps.InStep) (current : Option Discovered)
    (candidate : Discovered) (property : String) :
    (maps.pickBetterSetter current candidate property).2.InStep := by
  cases current with
  | none => exact h
  | some current =>
    unfold Metamodel.pickBetterSetter
    simp only
    split
    · exact h
    · split
      · exact h
      · exact ⟨h.reading, h.writing.insert property rfl⟩

theorem resolveSetters (h : maps.InStep) (wanted : Option DeclaredType) (property : String)
    (matched : Option Discovered) (conflict : Bool) (setters : List Discovered) :
    (Metamodel.resolveSetters wanted property maps matched conflict setters).InStep := by
  induction setters generalizing maps matched conflict with
  | nil =>
    cases matched with
    | none => exact h
    | some found => exact h.addSetMethod property found
  | cons setter rest ih =>
    rw [Metamodel.resolveSetters]
    split
    · exact h.addSetMethod property setter
    · split
      · exact ih h _ _
      · exact ih (h.pickBetterSetter matched setter property) _ _

theorem addSetMethods (h : maps.InStep) (methods : List Discovered) :
    (maps.addSetMethods methods).InStep :=
  List.foldlRecOn _ _ h fun _ h property _ => h.resolveSetters _ property _ _ _

theorem addSetField (h : maps.InStep) (found : LayeredField) : (maps.addSetField found).InStep := by
  unfold Metamodel.addSetField
  split
  · exact h
  · split
    · exact ⟨h.reading, h.writing.insert _ rfl⟩
    · exact h

theorem addGetField (h : maps.InStep) (found : LayeredField) : (maps.addGetField found).InStep := by
  unfold Metamodel.addGetField
  split
  · exact ⟨h.reading.insert _ rfl, h.writing⟩
  · exact h

theorem addField (h : maps.InStep) (found : LayeredField) : (maps.addField found).InStep := by
  have hfilled : (maps.fillWriting found).InStep := by
    unfold Metamodel.fillWriting
    split
    · exact h.addSetField found
    · exact h
  unfold Metamodel.addField Metamodel.fillReading
  split
  · exact hfilled.addGetField found
  · exact hfilled

theorem addFields (h : maps.InStep) (shadowed : List String) (fields : List LayeredField) :
    (maps.addFields shadowed fields).InStep := by
  induction fields generalizing maps shadowed with
  | nil => exact h
  | cons found rest ih =>
    rw [Metamodel.addFields]
    split
    · exact ih h _
    · exact ih (h.addField found) _

/-- The maps of a class are in step. -/
theorem build (decl : ClassDecl) : (Metamodel.build decl).InStep := by
  unfold Metamodel.build
  split
  · exact empty.addRecordGetMethods _
  · exact ((empty.addGetMethods _).addSetMethods _).addFields _ _

end Metamodel.InStep

/-! ## Entering one property after the other -/

namespace Metamodel

variable {maps : Metamodel} {property : String}

/-- Properties that are new and distinct are entered in order, each with what a step gives it. -/
theorem foldl_entered (view : Metamodel → Entries Accessor) (Kept : Metamodel → Prop)
    {step : Metamodel → String → Metamodel} {give : String → Option Accessor}
    (hstep : ∀ maps property, Kept maps → property ∉ (view maps).keys →
      Kept (step maps property) ∧
        view (step maps property) = view maps ++ ((give property).map (property, ·)).toList)
    {names : List String} (hnames : names.Nodup) (hkept : Kept maps)
    (hnew : ∀ name ∈ names, name ∉ (view maps).keys) :
    Kept (names.foldl step maps) ∧
      view (names.foldl step maps) =
        view maps ++ names.filterMap fun name => (give name).map (name, ·) := by
  induction names generalizing maps with
  | nil => exact ⟨hkept, (List.append_nil _).symm⟩
  | cons first rest ih =>
    obtain ⟨hfirst, hrest⟩ := List.nodup_cons.1 hnames
    obtain ⟨hkept', hview⟩ := hstep maps first hkept (hnew first List.mem_cons_self)
    have hnew' : ∀ name ∈ rest, name ∉ (view (step maps first)).keys := by
      intro name hname hmem
      rw [hview, Entries.keys, List.map_append, List.mem_append] at hmem
      rcases hmem with hmem | hmem
      · exact hnew name (List.mem_cons_of_mem _ hname) hmem
      · have heq : name = first := by
          cases hgive : give first <;> simp_all
        exact hfirst (heq ▸ hname)
    obtain ⟨hkept'', hview'⟩ := ih hrest hkept' hnew'
    refine ⟨hkept'', hview'.trans ?_⟩
    rw [hview, List.append_assoc]
    cases hgive : give first <;> simp [hgive]

/-! ### Getters -/

theorem addGetMethod_accessors (maps : Metamodel) (property : String) (choice : GetterChoice) :
    (maps.addGetMethod property choice.winner choice.rival).reading.accessors =
      maps.reading.accessors.put property (choice.accessor property) := by
  obtain ⟨winner, rival⟩ := choice
  cases rival <;> rfl

theorem resolveGetters_accessors (hnew : property ∉ maps.reading.accessors.keys)
    (getters : List Discovered) :
    (maps.resolveGetters property getters).reading.accessors =
      maps.reading.accessors ++ ((resolveGetter property getters).map (property, ·)).toList := by
  cases getters with
  | nil => exact (List.append_nil _).symm
  | cons first rest =>
    exact (addGetMethod_accessors maps property _).trans (Entries.put_of_not_mem_keys hnew _)

theorem resolveGetters_writing (maps : Metamodel) (property : String)
    (getters : List Discovered) :
    (maps.resolveGetters property getters).writing = maps.writing := by
  cases getters <;> rfl

theorem properties_nodup (found : List Discovered) : (properties found).Nodup :=
  pairwise_firsts id _

theorem addGetMethods_empty (decl : ClassDecl) :
    (empty.addGetMethods decl.discovered).writing = .empty ∧
      (empty.addGetMethods decl.discovered).reading.accessors = decl.methodReaders := by
  refine foldl_entered (fun maps => maps.reading.accessors) (fun maps => maps.writing = .empty)
    (fun maps property hkept hnew => ⟨?_, ?_⟩) (properties_nodup _) rfl
    (fun _ _ => List.not_mem_nil)
  · exact (resolveGetters_writing maps property _).trans hkept
  · exact resolveGetters_accessors hnew _

end Metamodel

/-! ### Setters -/

namespace SetterChoice

/-- The best setter so far, if there is one. -/
def best? : SetterChoice → Option Discovered
  | best found => some found
  | _ => none

/-- Whether two setters could not be told apart. -/
def isConflict : SetterChoice → Bool
  | conflict .. => true
  | _ => false

/-- What is entered while setters are still compared: a conflict, and nothing else. -/
def entered (choice : SetterChoice) (property : String) : Entries Accessor :=
  if choice.isConflict then ((choice.accessor? property).map (property, ·)).toList else []

end SetterChoice

namespace Metamodel

/-- Whether going through the setters of a property has come to a choice: the variables of
the loop, and the maps since its start. -/
structure ComesTo (start : Metamodel) (property : String) (choice : SetterChoice)
    (matched : Option Discovered) (conflict : Bool) (maps : Metamodel) : Prop where
  matched_eq : matched = choice.best?
  conflict_eq : conflict = choice.isConflict
  reading_eq : maps.reading = start.reading
  accessors_eq : maps.writing.accessors = start.writing.accessors ++ choice.entered property

namespace ComesTo

variable {start maps : Metamodel} {property : String} {choice : SetterChoice}
  {matched : Option Discovered} {conflict : Bool}

theorem addSetMethod (h : ComesTo start property choice matched conflict maps)
    (hnew : property ∉ start.writing.accessors.keys) (found : Discovered) :
    (maps.addSetMethod property found).writing.accessors =
      start.writing.accessors ++ [(property, writerOf property found)] := by
  show maps.writing.accessors.put property (writerOf property found) = _
  rw [h.accessors_eq]
  cases choice with
  | conflict first second =>
    -- the conflict gives its place to the setter
    show (start.writing.accessors ++ [(property, _)]).put property _ = _
    rw [← Entries.put_of_not_mem_keys hnew, Entries.put_put, Entries.put_of_not_mem_keys hnew]
  | _ =>
    show (start.writing.accessors ++ []).put property _ = _
    rw [List.append_nil, Entries.put_of_not_mem_keys hnew]

/-- Picking the better setter takes one more setter into account. -/
theorem pick (h : ComesTo start property choice matched conflict maps)
    (hnew : property ∉ start.writing.accessors.keys) (hconflict : conflict = false)
    (candidate : Discovered) :
    ComesTo start property (choice.add candidate)
      (maps.pickBetterSetter matched candidate property).1
      (maps.pickBetterSetter matched candidate property).1.isNone
      (maps.pickBetterSetter matched candidate property).2 := by
  obtain ⟨rfl, rfl, hreading, haccessors⟩ := h
  cases choice with
  | undecided => exact ⟨rfl, rfl, hreading, haccessors⟩
  | conflict first second => cases hconflict
  | best current =>
    have hbefore : maps.writing.accessors = start.writing.accessors :=
      haccessors.trans (List.append_nil _)
    unfold SetterChoice.best? pickBetterSetter SetterChoice.add
    simp only
    split
    · exact ⟨rfl, rfl, hreading, haccessors⟩
    · split
      · exact ⟨rfl, rfl, hreading, haccessors⟩
      · refine ⟨rfl, rfl, hreading, ?_⟩
        show maps.writing.accessors.put property _ = _
        rw [hbefore, Entries.put_of_not_mem_keys hnew]
        rfl

/-- What is entered at the end is what comparing the setters comes to. -/
theorem resolveSetters (h : ComesTo start property choice matched conflict maps)
    (hnew : property ∉ start.writing.accessors.keys) (wanted : Option DeclaredType)
    (setters : List Discovered) :
    (Metamodel.resolveSetters wanted property maps matched conflict setters).reading =
        start.reading ∧
      (Metamodel.resolveSetters wanted property maps matched conflict setters).writing.accessors =
        start.writing.accessors ++
          (((chooseSetter wanted choice setters).accessor? property).map (property, ·)).toList := by
  induction setters generalizing choice matched conflict maps with
  | nil =>
    rw [Metamodel.resolveSetters, chooseSetter, h.matched_eq]
    cases choice with
    | best found => exact ⟨h.reading_eq, h.addSetMethod hnew found⟩
    | _ => exact ⟨h.reading_eq, h.accessors_eq⟩
  | cons setter rest ih =>
    rw [Metamodel.resolveSetters, chooseSetter]
    split
    · exact ⟨h.reading_eq, h.addSetMethod hnew setter⟩
    · cases conflict with
      | false => exact ih (h.pick hnew rfl setter)
      | true =>
        -- nothing but the wanted type changes a conflict
        have hadd : choice.add setter = choice := by
          have hconflict := h.conflict_eq
          cases choice with
          | conflict first second => rfl
          | _ => cases hconflict
        rw [hadd]
        exact ih h

end ComesTo

variable {maps : Metamodel}

theorem getterType_eq (h : maps.InStep) (property : String) :
    maps.getterType property = wantedType (maps.reading.accessors.get? property) := by
  unfold getterType wantedType
  rw [h.reading.types_eq, Entries.get?_map]
  cases maps.reading.accessors.get? property <;> rfl

theorem addSetMethods_accessors (h : maps.InStep) (hwriting : maps.writing = .empty)
    (methods : List Discovered) :
    (maps.addSetMethods methods).reading = maps.reading ∧
      (maps.addSetMethods methods).writing.accessors =
        (properties (methods.filter Discovered.isSetter)).filterMap fun property =>
          (resolveSetter property (maps.reading.accessors.get? property)
            (candidates (methods.filter Discovered.isSetter) property)).map (property, ·) := by
  have hentered : ((maps.addSetMethods methods).InStep ∧
        (maps.addSetMethods methods).reading = maps.reading) ∧
      (maps.addSetMethods methods).writing.accessors = maps.writing.accessors ++
        (properties (methods.filter Discovered.isSetter)).filterMap fun property =>
          (resolveSetter property (maps.reading.accessors.get? property)
            (candidates (methods.filter Discovered.isSetter) property)).map (property, ·) := by
    refine foldl_entered (fun later => later.writing.accessors)
      (fun later => later.InStep ∧ later.reading = maps.reading)
      (fun later property hkept hnew => ?_) (properties_nodup _) ⟨h, rfl⟩ (fun name _ => ?_)
    · obtain ⟨hstep, hreading⟩ := hkept
      have hstart : ComesTo later property .undecided none false later :=
        ⟨rfl, rfl, rfl, (List.append_nil _).symm⟩
      have hend := hstart.resolveSetters hnew (later.getterType property)
        (candidates (methods.filter Discovered.isSetter) property)
      rw [getterType_eq hstep, hreading] at hend
      refine ⟨⟨hstep.resolveSetters _ property _ _ _, ?_⟩, ?_⟩
      · rw [getterType_eq hstep, hreading, hend.1]
      · rw [getterType_eq hstep, hreading, hend.2]
        rfl
    · rw [hwriting]
      exact List.not_mem_nil
  refine ⟨hentered.1.2, ?_⟩
  rw [hentered.2, hwriting]
  rfl

/-! ### Fields -/

/-- Only the nearest field of each name is entered. -/
theorem addFields_eq (maps : Metamodel) (shadowed : List String) (fields : List LayeredField) :
    maps.addFields shadowed fields =
      ((firsts (fun found => found.field.name) fields).filter fun found =>
        !shadowed.contains found.field.name).foldl addField maps := by
  induction fields generalizing maps shadowed with
  | nil => rfl
  | cons found rest ih =>
    rw [addFields, firsts]
    split
    · rename_i hshadowed
      rw [ih, List.filter_cons_of_neg (by simpa using hshadowed), List.filter_filter]
      congr 1
      refine List.filter_congr fun other _ => ?_
      -- a field that is not shadowed has another name
      by_cases hname : other.field.name = found.field.name
      · simp only [hname, hshadowed, Bool.not_true, Bool.false_and]
      · simp [hname]
    · rename_i hvisible
      rw [ih, List.filter_cons_of_pos (by simpa using hvisible), List.foldl_cons,
        List.filter_filter]
      congr 1
      refine List.filter_congr fun other _ => ?_
      simp only [List.contains_cons, Bool.not_or, Bool.and_comm, bne]

theorem fillWriting_reading (maps : Metamodel) (found : LayeredField) :
    (maps.fillWriting found).reading = maps.reading := by
  unfold fillWriting addSetField
  split
  · split
    · rfl
    · split <;> rfl
  · rfl

theorem fillReading_writing (maps : Metamodel) (found : LayeredField) :
    (maps.fillReading found).writing = maps.writing := by
  unfold fillReading addGetField
  split
  · split <;> rfl
  · rfl

/-- A field is filled in for reading if its name is valid. -/
theorem fillReading_accessors (maps : Metamodel) (found : LayeredField) :
    (maps.fillReading found).reading.accessors = PropertyTable.fill maps.reading.accessors
      (if PropertyName.isValid found.field.name then some (found.field.name, found.reader)
      else none).toList := by
  unfold fillReading addGetField
  cases hvalid : PropertyName.isValid found.field.name with
  | false => simp [PropertyTable.fill]
  | true =>
    show _ = maps.reading.accessors.putNew found.field.name found.reader
    rw [Entries.putNew_eq]
    cases maps.reading.accessors.contains found.field.name <;> rfl

/-- A field is filled in for writing if its name is valid and it has a write accessor. -/
theorem fillWriting_accessors (maps : Metamodel) (found : LayeredField) :
    (maps.fillWriting found).writing.accessors = PropertyTable.fill maps.writing.accessors
      (if PropertyName.isValid found.field.name then found.writer?.map (found.field.name, ·)
      else none).toList := by
  unfold fillWriting addSetField LayeredField.writer?
  cases hvalid : PropertyName.isValid found.field.name with
  | false => cases found.field.write <;> simp [PropertyTable.fill]
  | true =>
    cases hconstant : found.field.isFinal && found.field.isStatic with
    | true => simp [PropertyTable.fill]
    | false =>
      cases found.field.write with
      | none => simp [PropertyTable.fill]
      | some body =>
        show _ = maps.writing.accessors.putNew found.field.name _
        rw [Entries.putNew_eq]
        cases maps.writing.accessors.contains found.field.name <;> rfl

theorem addField_reading (maps : Metamodel) (found : LayeredField) :
    (maps.addField found).reading.accessors = PropertyTable.fill maps.reading.accessors
      (if PropertyName.isValid found.field.name then some (found.field.name, found.reader)
      else none).toList := by
  rw [addField, fillReading_accessors, fillWriting_reading]

theorem addField_writing (maps : Metamodel) (found : LayeredField) :
    (maps.addField found).writing.accessors = PropertyTable.fill maps.writing.accessors
      (if PropertyName.isValid found.field.name then found.writer?.map (found.field.name, ·)
      else none).toList := by
  rw [addField, fillReading_writing, fillWriting_accessors]

theorem foldl_addField (view : Metamodel → Entries Accessor)
    {give : LayeredField → Option (String × Accessor)}
    (hfield : ∀ maps found,
      view (addField maps found) = PropertyTable.fill (view maps) (give found).toList)
    (maps : Metamodel) (fields : List LayeredField) :
    view (fields.foldl addField maps) =
      PropertyTable.fill (view maps) (fields.filterMap give) := by
  induction fields generalizing maps with
  | nil => rfl
  | cons found rest ih =>
    rw [List.foldl_cons, ih, hfield]
    cases hgive : give found with
    | none => rw [List.filterMap_cons_none hgive]; rfl
    | some entry => rw [List.filterMap_cons_some hgive]; rfl

/-! ## The table -/

theorem addRecordGetMethods_empty (decl : ClassDecl) :
    (empty.addRecordGetMethods decl.discovered).writing = .empty ∧
      (empty.addRecordGetMethods decl.discovered).reading.accessors = decl.componentReaders := by
  constructor
  · exact List.foldlRecOn (motive := fun maps : Metamodel => maps.writing = .empty) _ _ rfl
      fun _ h _ _ => h
  · unfold ClassDecl.componentReaders Entries.ofList
    rw [List.foldl_map]
    exact (List.foldl_hom (fun maps : Metamodel => maps.reading.accessors) fun _ _ => rfl).symm

/-- The maps of a class hold what its table holds. -/
theorem build_accessors (owner : TypeKey) (decl : ClassDecl) :
    (build decl).reading.accessors = (PropertyTable.build owner decl).readers ∧
      (build decl).writing.accessors = (PropertyTable.build owner decl).writers := by
  unfold build PropertyTable.build
  simp only
  split
  · obtain ⟨hwriting, hreading⟩ := addRecordGetMethods_empty decl
    exact ⟨hreading, congrArg PropertyMaps.accessors hwriting⟩
  · obtain ⟨hwriting, hreading⟩ := addGetMethods_empty decl
    have hstep := InStep.empty.addGetMethods decl.discovered
    obtain ⟨hsame, hsetters⟩ := addSetMethods_accessors hstep hwriting decl.discovered
    rw [addFields_eq]
    have hvisible : ((firsts (fun found => found.field.name) (decl.fieldLayers.flatMap fun layer =>
        layer.decl.fields.map fun field => (⟨field, layer.env⟩ : LayeredField))).filter
          fun found => !([] : List String).contains found.field.name) = decl.visibleFields :=
      List.filter_eq_self.2 fun _ _ => rfl
    rw [hvisible]
    constructor
    · rw [foldl_addField (fun maps => maps.reading.accessors) addField_reading, hsame, hreading]
      rfl
    · rw [foldl_addField (fun maps => maps.writing.accessors) addField_writing, hsetters, hreading]
      rfl

end Metamodel

/-- Whether the names of one direction and its maps fit together: the names are the keys of
both maps, each once and in the order of their bytes, and the type under a name is that of
the accessor under the name. -/
structure PropertyMaps.Consistent (maps : PropertyMaps) (names : List String) : Prop where
  ascending : names.Pairwise fun name other => Text.bytes name < Text.bytes other
  accessors_keys : names.Perm maps.accessors.keys
  types_keys : names.Perm maps.types.keys
  type_eq : ∀ name accessor, maps.accessors.get? name = some accessor →
    maps.types.get? name = some accessor.valueType

theorem PropertyMaps.InStep.consistent {maps : PropertyMaps} (h : maps.InStep) :
    maps.Consistent maps.names := by
  have hsorted : maps.names.Pairwise (· < ·) := Entries.pairwise_keys_sorted maps.accessors
  have hnodup : maps.names.Nodup := by
    refine hsorted.imp ?_
    rintro name _ hlt rfl
    exact String.lt_irrefl name hlt
  have haccessors : maps.names.Perm maps.accessors.keys :=
    (List.perm_ext_iff_of_nodup hnodup h.nodup).2 fun _ => Entries.mem_keys_sorted
  have htypes : maps.types.keys = maps.accessors.keys := by
    rw [h.types_eq, Entries.keys, Entries.keys, List.map_map]
    rfl
  refine ⟨hsorted.imp Text.bytes_lt, haccessors, htypes ▸ haccessors, ?_⟩
  intro name accessor haccessor
  rw [h.types_eq, Entries.get?_map, haccessor]
  rfl

namespace Metamodel

/-- Whether a table gives out what the maps hold. -/
structure Describes (maps : Metamodel) (table : PropertyTable) : Prop where
  readers : table.readers = maps.reading.accessors
  writers : table.writers = maps.writing.accessors
  getterType : ∀ property, (table.getterType property).toOption = maps.reading.types.get? property
  setterType : ∀ property, (table.setterType property).toOption = maps.writing.types.get? property
  readableNames : table.readableNames = maps.reading.names
  writableNames : table.writableNames = maps.writing.names
  findName? : ∀ name, table.findName? name = maps.findName? name

theorem build_describes (owner : TypeKey) (decl : ClassDecl) :
    (build decl).Describes (PropertyTable.build owner decl) := by
  obtain ⟨hreaders, hwriters⟩ := build_accessors owner decl
  have hstep := InStep.build decl
  have hreadable : (PropertyTable.build owner decl).readableNames = (build decl).reading.names := by
    rw [PropertyTable.readableNames, ← hreaders]
    rfl
  have hwritable : (PropertyTable.build owner decl).writableNames = (build decl).writing.names := by
    rw [PropertyTable.writableNames, ← hwriters]
    rfl
  refine ⟨hreaders.symm, hwriters.symm, fun property => ?_, fun property => ?_, hreadable,
    hwritable, fun name => ?_⟩
  · rw [hstep.reading.types_eq, Entries.get?_map, hreaders, PropertyTable.getterType,
      PropertyTable.reader]
    cases (PropertyTable.build owner decl).readers.get? property <;> rfl
  · rw [hstep.writing.types_eq, Entries.get?_map, hwriters, PropertyTable.setterType,
      PropertyTable.writer]
    cases (PropertyTable.build owner decl).writers.get? property <;> rfl
  · rw [PropertyTable.findName?, hreadable, hwritable, findName?, spellings,
      Entries.get?_foldl_put Text.toUppercase fun name => name, Entries.get?_nil, Option.or_none,
      Option.map_id']

/-- **The maps of a class are consistent, and its table gives them out.**  In either
direction the names are in the order of their bytes and are the keys of the accessors and of
the types alike, and a conflict has its type there too.  A name in any case is found as a
property that is the same in upper case, and is found if there is one. -/
theorem build_consistent (owner : TypeKey) (decl : ClassDecl) :
    (build decl).Describes (PropertyTable.build owner decl) ∧
    (build decl).reading.Consistent (PropertyTable.build owner decl).readableNames ∧
    (build decl).writing.Consistent (PropertyTable.build owner decl).writableNames ∧
    ∀ name,
      (∀ found, (PropertyTable.build owner decl).findName? name = some found →
        (found ∈ (PropertyTable.build owner decl).readableNames ∨
          found ∈ (PropertyTable.build owner decl).writableNames) ∧
        Text.toUppercase found = Text.toUppercase name) ∧
      ((PropertyTable.build owner decl).findName? name = none →
        ∀ property, property ∈ (PropertyTable.build owner decl).readableNames ∨
            property ∈ (PropertyTable.build owner decl).writableNames →
          Text.toUppercase property ≠ Text.toUppercase name) := by
  have hdescribes := build_describes owner decl
  have hstep := InStep.build decl
  refine ⟨hdescribes, ?_, ?_, fun name =>
    ⟨fun found hfound => ?_, fun hnone property hproperty => ?_⟩⟩
  · rw [hdescribes.readableNames]
    exact hstep.reading.consistent
  · rw [hdescribes.writableNames]
    exact hstep.writing.consistent
  · have hmem := List.mem_of_find?_eq_some hfound
    rw [List.mem_reverse, List.mem_append] at hmem
    exact ⟨hmem, by simpa using List.find?_some hfound⟩
  · have hall := List.find?_eq_none.1 hnone property
      (List.mem_reverse.2 (List.mem_append.2 hproperty))
    simpa using hall

/-- A label whose text can be set from a number, a truth value or a text. -/
def label : ClassDecl :=
  let setter (type : DeclaredType) : MethodDecl := ⟨"setText", [type], .any, false, .uncallable⟩
  { ClassDecl.empty "Label" with
    methods := [⟨"getText", [], .string, false, .uncallable⟩, setter .long, setter .boolean,
      setter .string] }

-- the first two setters are in conflict until the third one, of the getter's type, comes
example : (build label).writing.types.map (fun entry => (entry.1, entry.2.text)) =
      [("text", "String")] ∧
    (build label).findName? "TEXT" = some "text" := by decide +kernel

end Metamodel

end DynamicSql

import DynamicSql.Proofs.Property.Components

/-!
# Reserved names

Some names are kept away from properties.  Accessors and fields are tested for them on every
way into a table, the components of a record on none: a reserved name becomes a property
exactly where a record has a component of that name (`reserved_name_iff`).
-/

namespace DynamicSql

namespace PropertyName

/-- The names that are kept away from properties. -/
def Reserved (name : String) : Prop :=
  name.toList.head? = some '$' ∨ name = "serialVersionUID" ∨ name = "class"

/-- The test of names refuses the reserved ones and no others. -/
theorem isValid_iff {name : String} : isValid name = true ↔ ¬ Reserved name := by
  have hdollar : ['$'].isPrefixOf name.toList = true ↔ name.toList.head? = some '$' := by
    cases name.toList with
    | nil => simp
    | cons c rest => simpa using (eq_comm : '$' = c ↔ c = '$')
  rw [isValid, Reserved, ← hdollar, not_or, not_or, Bool.and_eq_true, Bool.and_eq_true,
    Bool.not_eq_true', Bool.not_eq_true, bne_iff_ne, bne_iff_ne, and_assoc]

end PropertyName

namespace PropertyTable

variable {owner : TypeKey} {decl : ClassDecl} {table : PropertyTable} {name : String}

theorem mem_readableNames : name ∈ table.readableNames ↔ table.hasGetter name = true :=
  Entries.mem_keys_sorted.trans Entries.mem_keys_iff

theorem mem_writableNames : name ∈ table.writableNames ↔ table.hasSetter name = true :=
  Entries.mem_keys_sorted.trans Entries.mem_keys_iff

/-- What is found in any spelling is the name of a property. -/
theorem mem_of_findName? {spelling : String} (h : table.findName? spelling = some name) :
    name ∈ table.readableNames ∨ name ∈ table.writableNames :=
  List.mem_append.1 (List.mem_reverse.1 (List.mem_of_find?_eq_some h))

/-- Whether a name is that of a property, in either direction or for any spelling. -/
def HasName (table : PropertyTable) (name : String) : Prop :=
  name ∈ table.readableNames ∨ name ∈ table.writableNames ∨
    ∃ spelling, table.findName? spelling = some name

theorem hasName_iff : table.HasName name ↔
    table.hasGetter name = true ∨ table.hasSetter name = true := by
  unfold HasName
  rw [← mem_readableNames, ← mem_writableNames, ← or_assoc]
  exact or_iff_left_of_imp fun ⟨_, hfound⟩ => mem_of_findName? hfound

/-- What has accessors has a valid name. -/
theorem isValid_of_candidates {found : List Discovered} (h : candidates found name ≠ []) :
    PropertyName.isValid name = true := by
  obtain ⟨candidate, -, hproperty⟩ := candidates_ne_nil.1 h
  exact (Discovered.property?_eq_some.1 hproperty).2

/-- The properties of a class that is no record have valid names. -/
theorem isValid_of_hasName (hrecord : decl.isRecord = false)
    (h : (build owner decl).HasName name) : PropertyName.isValid name = true := by
  rw [hasName_iff, hasGetter_iff hrecord, hasSetter_iff hrecord] at h
  rcases h with (hgetters | hfield) | (hsetters | hfield)
  · exact isValid_of_candidates hgetters
  · exact (ClassDecl.fieldReaders_isSome.1 hfield).1
  · exact isValid_of_candidates hsetters
  · exact (ClassDecl.fieldWriters_isSome.1 hfield).1

/-- The properties of a record are its components. -/
theorem hasName_record (hrecord : decl.isRecord = true) :
    (build owner decl).HasName name ↔
      ∃ found ∈ decl.discovered, found.method.isComponent name = true := by
  have hwriters : (build owner decl).hasSetter name = false := by
    unfold build hasSetter
    simp only [hrecord, if_true]
    rfl
  rw [hasName_iff, hwriters, hasGetter, Entries.contains, get?_readers_record hrecord,
    Option.isSome_map, List.getLast?_isSome, or_iff_left Bool.false_ne_true]
  simp [ClassDecl.components]

/-- **Reserved names become properties only as components of records.**  A reserved name is
readable, writable or found for some spelling exactly if the class is a record and a method
without arguments is discovered under that very name. -/
theorem reserved_name_iff (owner : TypeKey) (decl : ClassDecl) (name : String)
    (hreserved : PropertyName.Reserved name) :
    (build owner decl).HasName name ↔ decl.isRecord = true ∧
      ∃ found ∈ decl.discovered, found.method.isComponent name = true := by
  cases hrecord : decl.isRecord with
  | false =>
    refine iff_of_false (fun h => ?_) fun h => Bool.false_ne_true h.1
    exact PropertyName.isValid_iff.1 (isValid_of_hasName hrecord h) hreserved
  | true => rw [hasName_record hrecord, and_iff_right rfl]

/-- A lesson tells its class, by a component and by a getter. -/
def lesson (isRecord : Bool) : ClassDecl :=
  { ClassDecl.empty "Lesson" with
    isRecord
    methods := [componentOf "class" "class" .string, componentOf "class" "getClass" .string] }

/-- The class of a lesson is a property if the lesson is a record. -/
theorem reserved_name_iff_lesson :
    PropertyName.Reserved "class" ∧ (build ⟨0, "Lesson"⟩ (lesson true)).HasName "class" ∧
      ¬ (build ⟨0, "Lesson"⟩ (lesson false)).HasName "class" := by
  have hreserved : PropertyName.Reserved "class" := .inr (.inr rfl)
  have hrecord := reserved_name_iff ⟨0, "Lesson"⟩ (lesson true) "class" hreserved
  have hplain := reserved_name_iff ⟨0, "Lesson"⟩ (lesson false) "class" hreserved
  refine ⟨hreserved, hrecord.2 ⟨rfl, ?_⟩, fun h => Bool.false_ne_true (hplain.1 h).1⟩
  exact ⟨⟨componentOf "class" "class" .string, "Lesson", []⟩, .head _, rfl⟩

/-- A reserved name may be that of a property. -/
theorem reserved_name_readable :
    ¬ ∀ (owner : TypeKey) (decl : ClassDecl) (name : String),
      (build owner decl).HasName name → ¬ PropertyName.Reserved name := by
  intro h
  refine h ⟨0, "Lesson"⟩ (lesson true) "class" ((hasName_record rfl).2 ?_) (.inr (.inr rfl))
  exact ⟨⟨componentOf "class" "class" .string, "Lesson", []⟩, .head _, rfl⟩

end PropertyTable

end DynamicSql

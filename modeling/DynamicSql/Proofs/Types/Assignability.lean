import DynamicSql.Types.Lineage

/-!
# Assignability

The rules by which a type accepts another (`Accepts`), which the test of assignability
decides.  Where a name determines the supertypes, acceptance is transitive
(`Accepts.trans`), and two types that accept each other are equal (`Accepts.antisymm`), so
that assignability is a partial order (`assignability_partial_order`).
-/

namespace DynamicSql

/-! ## Lineages -/

namespace NominalType

variable {type other heir : NominalType} {types : List NominalType} {name ancestor : String}

/-- What holds of a nominal type when it holds of its direct supertypes holds of every one. -/
@[elab_as_elim]
theorem supertypesInduction {motive : NominalType → Prop}
    (mk : ∀ name supertypes, (∀ supertype ∈ supertypes, motive supertype) →
      motive (.mk name supertypes))
    (type : NominalType) : motive type := by
  refine NominalType.rec (motive_1 := motive)
    (motive_2 := fun types => ∀ type ∈ types, motive type) mk ?_ ?_ type
  · exact fun type htype => absurd htype List.not_mem_nil
  · exact fun first rest hfirst hrest => List.forall_mem_cons.2 ⟨hfirst, hrest⟩

theorem mem_lineages : type ∈ lineages types ↔ ∃ heir ∈ types, type ∈ heir.lineage := by
  induction types with
  | nil => simp [lineages]
  | cons first rest ih => simp [lineages, ih]

theorem mem_lineage_mk : type ∈ (mk name types).lineage ↔
    type = mk name types ∨ ∃ supertype ∈ types, type ∈ supertype.lineage := by
  rw [lineage, List.mem_cons, mem_lineages]

theorem mem_lineage_self (type : NominalType) : type ∈ type.lineage := by
  cases type
  exact mem_lineage_mk.2 (.inl rfl)

/-- A lineage holds the lineages of its types. -/
theorem mem_lineage_trans (h : type ∈ other.lineage) (hother : other ∈ heir.lineage) :
    type ∈ heir.lineage := by
  induction heir using supertypesInduction with
  | mk name supertypes ih =>
    rcases mem_lineage_mk.1 hother with rfl | ⟨supertype, hsupertype, hmem⟩
    · exact h
    · exact mem_lineage_mk.2 (.inr ⟨supertype, hsupertype, ih supertype hsupertype hmem⟩)

theorem mem_lineages_trans (h : type ∈ other.lineage) (hother : other ∈ lineages types) :
    type ∈ lineages types := by
  obtain ⟨heir, hheir, hmem⟩ := mem_lineages.1 hother
  exact mem_lineages.2 ⟨heir, hheir, mem_lineage_trans h hmem⟩

theorem length_lineage_le (h : type ∈ types) : type.lineage.length ≤ (lineages types).length := by
  induction types with
  | nil => cases h
  | cons first rest ih =>
    rw [lineages, List.length_append]
    rcases List.mem_cons.1 h with rfl | hrest
    · exact Nat.le_add_right _ _
    · exact Nat.le_trans (ih hrest) (Nat.le_add_left _ _)

/-- A proper supertype has a shorter lineage. -/
theorem length_lineage_lt (h : type ∈ other.lineage) :
    type = other ∨ type.lineage.length < other.lineage.length := by
  induction other using supertypesInduction with
  | mk name supertypes ih =>
    rcases mem_lineage_mk.1 h with rfl | ⟨supertype, hsupertype, hmem⟩
    · exact .inl rfl
    · have hsupertypes := length_lineage_le hsupertype
      rw [lineage, List.length_cons]
      rcases ih supertype hsupertype hmem with rfl | hshorter
      · exact .inr (by omega)
      · exact .inr (by omega)

theorem anyDescendsFrom_iff : anyDescendsFrom ancestor types = true ↔
    ∃ type ∈ types, type.descendsFrom ancestor = true := by
  induction types with
  | nil => simp [anyDescendsFrom]
  | cons first rest ih => simp [anyDescendsFrom, ih]

/-- A type descends from the names in its lineage. -/
theorem descendsFrom_iff : type.descendsFrom ancestor = true ↔
    ∃ supertype ∈ type.lineage, supertype.name = ancestor := by
  induction type using supertypesInduction with
  | mk name supertypes ih =>
    rw [descendsFrom, Bool.or_eq_true, beq_iff_eq, anyDescendsFrom_iff]
    constructor
    · rintro (rfl | ⟨supertype, hsupertype, h⟩)
      · exact ⟨_, mem_lineage_self _, rfl⟩
      · obtain ⟨found, hfound, rfl⟩ := (ih supertype hsupertype).1 h
        exact ⟨found, mem_lineage_mk.2 (.inr ⟨supertype, hsupertype, hfound⟩), rfl⟩
    · rintro ⟨found, hfound, rfl⟩
      rcases mem_lineage_mk.1 hfound with rfl | ⟨supertype, hsupertype, hmem⟩
      · exact .inl rfl
      · exact .inr ⟨supertype, hsupertype, (ih supertype hsupertype).2 ⟨found, hmem, rfl⟩⟩

/-! ## What a name determines -/

namespace Consistent

variable (h : Consistent types)
include h

theorem descendsFrom_congr (htype : type ∈ lineages types) (hother : other ∈ lineages types)
    (hname : type.name = other.name) (hancestor : type.descendsFrom ancestor = true) :
    other.descendsFrom ancestor = true := by
  obtain ⟨supertype, hsupertype, rfl⟩ := descendsFrom_iff.1 hancestor
  exact h type htype other hother hname supertype hsupertype

/-- What a type's ancestor descends from the type descends from. -/
theorem descendsFrom_trans (htype : type ∈ lineages types) (hother : other ∈ lineages types)
    (hancestor : type.descendsFrom ancestor = true)
    (hdescends : other.descendsFrom type.name = true) : other.descendsFrom ancestor = true := by
  obtain ⟨found, hfound, hname⟩ := descendsFrom_iff.1 hdescends
  have hmem : found ∈ lineages types := mem_lineages_trans hfound hother
  obtain ⟨supertype, hsupertype, rfl⟩ :=
    descendsFrom_iff.1 (h.descendsFrom_congr htype hmem hname.symm hancestor)
  exact descendsFrom_iff.2 ⟨supertype, mem_lineage_trans hsupertype hfound, rfl⟩

/-- Two types that descend from each other have one name. -/
theorem name_eq (htype : type ∈ lineages types) (hother : other ∈ lineages types)
    (hdescends : other.descendsFrom type.name = true)
    (hancestor : type.descendsFrom other.name = true) : type.name = other.name := by
  -- the lineage of `other` holds a type called as `type`, which again descends from `other`
  induction hlength : other.lineage.length using Nat.strongRecOn generalizing type other with
  | _ n ih =>
    obtain ⟨found, hfound, hname⟩ := descendsFrom_iff.1 hdescends
    rcases length_lineage_lt hfound with rfl | hshorter
    · exact hname.symm
    · have hmem : found ∈ lineages types := mem_lineages_trans hfound hother
      have hback := h.descendsFrom_congr htype hmem hname.symm hancestor
      have hsame := ih found.lineage.length (hlength ▸ hshorter) hother hmem hback
        (hname ▸ hdescends) rfl
      exact hname.symm.trans hsame.symm

end Consistent

/-- Types are described consistently where equal names carry equal trees of supertypes. -/
theorem consistent_of_trees_eq (h : ∀ type ∈ lineages types, ∀ other ∈ lineages types,
    type.name = other.name → type = other) : Consistent types := by
  intro type htype other hother hname supertype hsupertype
  obtain rfl := h type htype other hother hname
  exact descendsFrom_iff.2 ⟨supertype, hsupertype, rfl⟩

end NominalType

/-! ## Equality -/

namespace DeclaredType

variable {a b c : DeclaredType}

/-- A type whose nominal types are without supertypes. -/
def shape : DeclaredType → DeclaredType
  | list element => list element.shape
  | array component => array component.shape
  | named type => named (.root type.name)
  | type => type

/-- Two types are equal if they differ in supertypes only. -/
theorem beq_iff_shape : (a == b) = true ↔ a.shape = b.shape := by
  show same a b = true ↔ _
  induction a generalizing b with
  | list element ih => cases b <;> simp [same, shape, ih]
  | array component ih => cases b <;> simp [same, shape, ih]
  | named type => cases b <;> simp [same, shape, NominalType.root]
  | _ => cases b <;> simp [same, shape]

instance : EquivBEq DeclaredType where
  rfl := beq_iff_shape.2 rfl
  symm h := beq_iff_shape.2 (beq_iff_shape.1 h).symm
  trans h h' := beq_iff_shape.2 ((beq_iff_shape.1 h).trans (beq_iff_shape.1 h'))

theorem beq_any : (a == any) = true ↔ a = any := by
  cases a <;> simp [beq_iff_shape, shape]

theorem beq_boolean : (a == boolean) = true ↔ a = boolean := by
  cases a <;> simp [beq_iff_shape, shape]

theorem beq_list : (a == list b) = true ↔ ∃ element, a = list element ∧ (element == b) = true := by
  cases a <;> simp [beq_iff_shape, shape]

theorem beq_array :
    (a == array b) = true ↔ ∃ component, a = array component ∧ (component == b) = true := by
  cases a <;> simp [beq_iff_shape, shape]

theorem beq_named {type : NominalType} :
    (a == named type) = true ↔ ∃ other, a = named other ∧ other.name = type.name := by
  cases a <;> simp [beq_iff_shape, shape, NominalType.root]

theorem isPrimitive_congr (h : (a == b) = true) : a.isPrimitive = b.isPrimitive := by
  have hshape : ∀ type : DeclaredType, type.shape.isPrimitive = type.isPrimitive := by
    intro type
    cases type <;> rfl
  rw [← hshape a, beq_iff_shape.1 h, hshape b]

/-! ## The rules -/

/-- The rules by which a type accepts values of another. -/
inductive Accepts : DeclaredType → DeclaredType → Prop
  | equal {target source : DeclaredType} (h : (target == source) = true) : Accepts target source
  | any {source : DeclaredType} (h : source ≠ void) : Accepts any source
  | list (element : DeclaredType) : Accepts (list .any) (list element)
  | array {target source : DeclaredType} (hreference : source.isPrimitive = false)
      (h : Accepts target source) : Accepts (array target) (array source)
  | named {target source : NominalType} (h : source.descendsFrom target.name = true) :
      Accepts (named target) (named source)

theorem accepts_of_isAssignableFrom (h : a.isAssignableFrom b = true) : Accepts a b := by
  induction a generalizing b with
  | any =>
    by_cases hb : b = void
    · subst hb
      cases h
    · exact .any hb
  | list element =>
    unfold isAssignableFrom at h
    rw [Bool.or_eq_true] at h
    rcases h with h | h
    · exact .equal h
    · cases b with
      | list other =>
        rw [beq_any.1 h]
        exact .list other
      | _ => cases h
  | array component ih =>
    unfold isAssignableFrom at h
    rw [Bool.or_eq_true] at h
    rcases h with h | h
    · exact .equal h
    · cases b with
      | array other =>
        obtain ⟨hreference, haccepts⟩ : other.isPrimitive = false ∧
            component.isAssignableFrom other = true := by simpa using h
        exact .array hreference (ih haccepts)
      | _ => cases h
  | named type =>
    unfold isAssignableFrom at h
    rw [Bool.or_eq_true] at h
    rcases h with h | h
    · exact .equal h
    · cases b with
      | named other => exact .named h
      | _ => cases h
  | _ =>
    unfold isAssignableFrom at h
    rw [Bool.or_eq_true] at h
    rcases h with h | h
    · exact .equal h
    · cases b <;> cases h

/-- The test of assignability decides by the rules. -/
theorem isAssignableFrom_iff : a.isAssignableFrom b = true ↔ Accepts a b := by
  refine ⟨accepts_of_isAssignableFrom, fun h => ?_⟩
  induction h with
  | equal h =>
    unfold isAssignableFrom
    rw [h, Bool.true_or]
  | @any source h => cases source <;> first | rfl | exact absurd rfl h
  | list element => exact Bool.or_true _
  | array hreference h ih =>
    unfold isAssignableFrom
    rw [Bool.or_eq_true]
    exact .inr (by simp [hreference, ih])
  | named h =>
    unfold isAssignableFrom
    rw [Bool.or_eq_true]
    exact .inr h

/-- Only `void` accepts `void`. -/
theorem Accepts.ne_void (h : Accepts a b) (ha : a ≠ void) : b ≠ void := by
  rintro rfl
  cases h with
  | equal h => cases a <;> first | exact ha rfl | cases h
  | any h => exact h rfl

/-- Equal types accept the same types. -/
theorem Accepts.of_equal_left (h : (a == b) = true) (haccepts : Accepts b c) : Accepts a c := by
  induction haccepts generalizing a with
  | equal h' => exact .equal (BEq.trans h h')
  | any hvoid =>
    rw [beq_any.1 h]
    exact .any hvoid
  | list element =>
    obtain ⟨target, rfl, htarget⟩ := beq_list.1 h
    rw [beq_any.1 htarget]
    exact .list element
  | array hreference _ ih =>
    obtain ⟨target, rfl, htarget⟩ := beq_array.1 h
    exact .array hreference (ih htarget)
  | named hdescends =>
    obtain ⟨target, rfl, hname⟩ := beq_named.1 h
    exact .named (hname ▸ hdescends)

/-! ## Where a name determines the supertypes -/

theorem mem_lineages_of_named {types : List NominalType} {type : NominalType}
    (h : (named type).nominalTypes ⊆ types) : type ∈ NominalType.lineages types :=
  NominalType.mem_lineages.2 ⟨type, h List.mem_cons_self, NominalType.mem_lineage_self type⟩

section Consistent

variable {types : List NominalType} (h : NominalType.Consistent types)
include h

/-- Equal types are accepted by the same types. -/
theorem Accepts.of_equal_right (hb : b.nominalTypes ⊆ types) (hc : c.nominalTypes ⊆ types)
    (hequal : (c == b) = true) (haccepts : Accepts a b) : Accepts a c := by
  induction haccepts generalizing c with
  | equal h' => exact .equal (BEq.trans h' (BEq.symm hequal))
  | @any source hvoid =>
    refine .any ?_
    rintro rfl
    exact Accepts.ne_void (.equal (BEq.symm hequal)) hvoid rfl
  | list element =>
    obtain ⟨source, rfl, -⟩ := beq_list.1 hequal
    exact .list source
  | array hreference _ ih =>
    obtain ⟨source, rfl, hsource⟩ := beq_array.1 hequal
    exact .array ((isPrimitive_congr hsource).trans hreference) (ih hb hc hsource)
  | @named target source hdescends =>
    obtain ⟨other, rfl, hname⟩ := beq_named.1 hequal
    exact .named (h.descendsFrom_congr (mem_lineages_of_named hb) (mem_lineages_of_named hc)
      hname.symm hdescends)

/-- A type accepts what a type accepts that it accepts. -/
theorem Accepts.trans (hb : b.nominalTypes ⊆ types) (hc : c.nominalTypes ⊆ types)
    (hab : Accepts a b) (hbc : Accepts b c) : Accepts a c := by
  induction hab generalizing c with
  | equal h' => exact .of_equal_left h' hbc
  | any hvoid => exact .any (hbc.ne_void hvoid)
  | list element =>
    cases hbc with
    | equal h' =>
      obtain ⟨source, rfl, -⟩ := beq_list.1 (BEq.symm h')
      exact .list source
    | list source => exact .list source
  | array hreference hfirst ih =>
    cases hbc with
    | equal h' => exact .of_equal_right h hb hc (BEq.symm h') (.array hreference hfirst)
    | array hreference' hsecond => exact .array hreference' (ih hb hc hsecond)
  | named hdescends =>
    cases hbc with
    | equal h' => exact .of_equal_right h hb hc (BEq.symm h') (.named hdescends)
    | named hdescends' =>
      exact .named (h.descendsFrom_trans (mem_lineages_of_named hb) (mem_lineages_of_named hc)
        hdescends hdescends')

/-- Types that accept each other are equal. -/
theorem Accepts.antisymm (ha : a.nominalTypes ⊆ types) (hb : b.nominalTypes ⊆ types)
    (hab : Accepts a b) (hba : Accepts b a) : (a == b) = true := by
  induction hab with
  | equal h' => exact h'
  | any hvoid =>
    cases hba with
    | equal h' => exact BEq.symm h'
    | any => exact BEq.rfl
  | list element =>
    cases hba with
    | equal h' => exact BEq.symm h'
    | list => exact BEq.rfl
  | array hreference hfirst ih =>
    cases hba with
    | equal h' => exact BEq.symm h'
    | array hreference' hsecond => exact beq_array.2 ⟨_, rfl, ih ha hb hsecond⟩
  | named hdescends =>
    cases hba with
    | equal h' => exact BEq.symm h'
    | named hdescends' =>
      have hname := h.name_eq (mem_lineages_of_named ha) (mem_lineages_of_named hb)
        hdescends hdescends'
      exact beq_named.2 ⟨_, rfl, hname⟩

theorem isAssignableFrom_trans (hb : b.nominalTypes ⊆ types) (hc : c.nominalTypes ⊆ types)
    (hab : a.isAssignableFrom b = true) (hbc : b.isAssignableFrom c = true) :
    a.isAssignableFrom c = true := by
  rw [isAssignableFrom_iff] at hab hbc ⊢
  exact hab.trans h hb hc hbc

theorem isAssignableFrom_congr_right (hb : b.nominalTypes ⊆ types)
    (hc : c.nominalTypes ⊆ types) (hequal : (b == c) = true) :
    a.isAssignableFrom b = a.isAssignableFrom c := by
  rw [Bool.eq_iff_iff, isAssignableFrom_iff, isAssignableFrom_iff]
  exact ⟨.of_equal_right h hb hc (BEq.symm hequal), .of_equal_right h hc hb hequal⟩

theorem beq_of_isAssignableFrom (ha : a.nominalTypes ⊆ types) (hb : b.nominalTypes ⊆ types)
    (hab : a.isAssignableFrom b = true) (hba : b.isAssignableFrom a = true) :
    (a == b) = true := by
  rw [isAssignableFrom_iff] at hab hba
  exact hab.antisymm h ha hb hba

end Consistent

theorem isAssignableFrom_of_beq (h : (a == b) = true) : a.isAssignableFrom b = true :=
  isAssignableFrom_iff.2 (.equal h)

theorem isAssignableFrom_congr_left (h : (a == b) = true) :
    a.isAssignableFrom c = b.isAssignableFrom c := by
  rw [Bool.eq_iff_iff, isAssignableFrom_iff, isAssignableFrom_iff]
  exact ⟨.of_equal_left (BEq.symm h), .of_equal_left h⟩

/-! ## The order -/

/-- **Assignability is a partial order.**  Every type accepts itself.  Among types whose nominal
types are described consistently, a type accepts what any type accepts that it accepts, and two
types that accept each other are equal. -/
theorem assignability_partial_order (types : List DeclaredType)
    (h : NominalType.Consistent (types.flatMap nominalTypes)) :
    (∀ a : DeclaredType, a.isAssignableFrom a = true) ∧
    (∀ a ∈ types, ∀ b ∈ types, ∀ c ∈ types,
      a.isAssignableFrom b = true → b.isAssignableFrom c = true → a.isAssignableFrom c = true) ∧
    (∀ a ∈ types, ∀ b ∈ types,
      a.isAssignableFrom b = true → b.isAssignableFrom a = true → (a == b) = true) := by
  have hnominal : ∀ type ∈ types, type.nominalTypes ⊆ types.flatMap nominalTypes :=
    fun type htype _ hmem => List.mem_flatMap.2 ⟨type, htype, hmem⟩
  refine ⟨fun a => isAssignableFrom_of_beq BEq.rfl, ?_, ?_⟩
  · intro a _ b hb c hc hab hbc
    exact isAssignableFrom_trans h (hnominal b hb) (hnominal c hc) hab hbc
  · intro a ha b hb hab hba
    exact beq_of_isAssignableFrom h (hnominal a ha) (hnominal b hb) hab hba

/-- Arrays of animals, of dogs and of puppies, a list and the absence of a value. -/
def kennelTypes : List DeclaredType :=
  let animal := NominalType.root "Animal"
  let dog := NominalType.mk "Dog" [animal]
  let puppy := NominalType.mk "Puppy" [dog, .mk "Companion" [animal]]
  [.array (.named animal), .array (.named dog), .array (.named puppy), .list .any, .void]

/-- Puppies can be kept where animals can, since dogs can. -/
theorem assignability_partial_order_kennel :
    NominalType.Consistent (kennelTypes.flatMap nominalTypes) ∧
    ∃ animals ∈ kennelTypes, ∃ dogs ∈ kennelTypes, ∃ puppies ∈ kennelTypes,
      animals.isAssignableFrom dogs = true ∧ dogs.isAssignableFrom puppies = true ∧
      animals.isAssignableFrom puppies = true := by
  have h : NominalType.Consistent (kennelTypes.flatMap nominalTypes) := by decide
  obtain ⟨-, htrans, -⟩ := assignability_partial_order kennelTypes h
  refine ⟨h, _, .head _, _, .tail _ (.head _), _, .tail _ (.tail _ (.head _)), rfl, rfl, ?_⟩
  exact htrans _ (.head _) _ (.tail _ (.head _)) _ (.tail _ (.tail _ (.head _))) rfl rfl

-- where two types of one name have different supertypes, the order fails
example :
    let animal := named (.root "Animal")
    let dog := named (.mk "Dog" [.root "Animal"])
    let puppy := named (.mk "Puppy" [.root "Dog"])
    animal.isAssignableFrom dog = true ∧ dog.isAssignableFrom puppy = true ∧
      animal.isAssignableFrom puppy = false := by decide

end DeclaredType

end DynamicSql

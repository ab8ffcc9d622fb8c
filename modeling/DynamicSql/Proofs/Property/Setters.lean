import DynamicSql.Proofs.Property.Specificity
import Mathlib.Data.List.Induction

/-!
# The choice between setters

A setter of exactly the type that a getter yields ends the comparison of setters, whatever
came before it (`chooseSetter_eq`).  Without one, comparing them keeps a setter whose type
every other one accepts, the last of those of its type, or ends with two that cannot be told
apart.  So the type of a property that can be written is the getter's or else the most
specific (`setter_choice_sound`).  Of several setters of that type the first is taken in the
one case and the last in the other (`method_writer_among_equals`): without a getter a setter
of the class itself gives way to the inherited one that it overrides
(`overriding_setter_replaced`).
-/

namespace DynamicSql

namespace SetterChoice

variable {choice : SetterChoice} {setters : List Discovered}
  {found first second candidate : Discovered}

/-! ## One comparison -/

/-- A best setter comes to be because it is the first one, because the best one so far accepts
its type, or because it stays. -/
theorem add_eq_best (h : choice.add candidate = best found) :
    (choice = undecided ∧ found = candidate) ∨
    (∃ current, choice = best current ∧ found = candidate ∧
      current.paramType.isAssignableFrom candidate.paramType = true) ∨
    (choice = best found ∧ found.paramType.isAssignableFrom candidate.paramType = false ∧
      candidate.paramType.isAssignableFrom found.paramType = true) := by
  cases choice with
  | undecided =>
    cases h
    exact .inl ⟨rfl, rfl⟩
  | best current =>
    simp only [add] at h
    split at h
    · rename_i haccepts
      cases h
      exact .inr (.inl ⟨current, rfl, rfl, haccepts⟩)
    · rename_i hrefuses
      split at h
      · rename_i haccepts
        cases h
        exact .inr (.inr ⟨rfl, Bool.eq_false_iff.2 hrefuses, haccepts⟩)
      · cases h
  | conflict => cases h

/-- A conflict stays, or comes to be where neither of two setters accepts the other's type. -/
theorem add_eq_conflict (h : choice.add candidate = conflict first second) :
    choice = conflict first second ∨
    (choice = best first ∧ second = candidate ∧
      first.paramType.isAssignableFrom second.paramType = false ∧
      second.paramType.isAssignableFrom first.paramType = false) := by
  cases choice with
  | undecided => cases h
  | best current =>
    simp only [add] at h
    split at h
    · cases h
    · rename_i hrefuses
      split at h
      · cases h
      · rename_i hrefuses'
        cases h
        exact .inr ⟨rfl, rfl, Bool.eq_false_iff.2 hrefuses, Bool.eq_false_iff.2 hrefuses'⟩
  | conflict =>
    cases h
    exact .inl rfl

/-! ## All comparisons -/

/-- What comparing setters only with each other comes to. -/
def ofSetters (setters : List Discovered) : SetterChoice := setters.foldl add undecided

theorem ofSetters_snoc (setters : List Discovered) (candidate : Discovered) :
    ofSetters (setters ++ [candidate]) = (ofSetters setters).add candidate :=
  List.foldl_append

theorem eq_nil_of_ofSetters (h : ofSetters setters = undecided) : setters = [] := by
  cases setters using List.reverseRecOn with
  | nil => rfl
  | append_singleton seen candidate =>
    rw [ofSetters_snoc] at h
    exact absurd h add_ne_undecided

end SetterChoice

/-- The setters of a type. -/
def settersOfType (setters : List Discovered) (type : DeclaredType) : List Discovered :=
  setters.filter fun setter => setter.paramType == type

namespace SetterChoice

variable {setters : List Discovered} {found first second : Discovered}

/-- Of the setters of its type the best one is the last. -/
theorem getLast?_of_best (h : ofSetters setters = best found) :
    (settersOfType setters found.paramType).getLast? = some found := by
  unfold settersOfType
  induction setters using List.reverseRecOn with
  | nil => cases h
  | append_singleton seen candidate ih =>
    rw [ofSetters_snoc] at h
    rcases add_eq_best h with ⟨-, rfl⟩ | ⟨current, -, rfl, -⟩ | ⟨hbest, hrefuses, -⟩
    · simp [List.filter_append]
    · simp [List.filter_append]
    · -- a setter of the same type would have come in its place
      have hdifferent : (candidate.paramType == found.paramType) = false := by
        refine Bool.eq_false_iff.2 fun hequal => ?_
        rw [DeclaredType.isAssignableFrom_of_beq (BEq.symm hequal)] at hrefuses
        cases hrefuses
      simpa [List.filter_append, hdifferent] using ih hbest

theorem mem_of_best (h : ofSetters setters = best found) : found ∈ setters :=
  (List.mem_filter.1 (List.mem_of_getLast? (getLast?_of_best h))).1

/-- The type of every setter accepts that of the best one. -/
theorem accepted_of_best {types : List NominalType} (hconsistent : NominalType.Consistent types)
    (htypes : ∀ setter ∈ setters, setter.paramType.nominalTypes ⊆ types)
    (h : ofSetters setters = best found) :
    ∀ other ∈ setters, other.paramType.isAssignableFrom found.paramType = true := by
  induction setters using List.reverseRecOn generalizing found with
  | nil => cases h
  | append_singleton seen candidate ih =>
    rw [ofSetters_snoc] at h
    have hseen : ∀ setter ∈ seen, setter.paramType.nominalTypes ⊆ types := fun setter hsetter =>
      htypes setter (List.mem_append_left _ hsetter)
    have hself : candidate.paramType.isAssignableFrom candidate.paramType = true :=
      DeclaredType.isAssignableFrom_of_beq BEq.rfl
    rw [List.forall_mem_append, List.forall_mem_singleton]
    rcases add_eq_best h with ⟨hnone, rfl⟩ | ⟨current, hcurrent, rfl, haccepts⟩ |
      ⟨hbest, -, haccepts⟩
    · rw [eq_nil_of_ofSetters hnone]
      exact ⟨nofun, hself⟩
    · refine ⟨fun other hother => ?_, hself⟩
      exact DeclaredType.isAssignableFrom_trans hconsistent
        (hseen current (mem_of_best hcurrent)) (htypes found (by simp))
        (ih hseen hcurrent other hother) haccepts
    · exact ⟨ih hseen hbest, haccepts⟩

/-- What is reported as a conflict are two setters of which neither accepts the other's type. -/
theorem refuses_of_conflict (h : ofSetters setters = conflict first second) :
    [first, second].Sublist setters ∧
      first.paramType.isAssignableFrom second.paramType = false ∧
      second.paramType.isAssignableFrom first.paramType = false := by
  induction setters using List.reverseRecOn with
  | nil => cases h
  | append_singleton seen candidate ih =>
    rw [ofSetters_snoc] at h
    rcases add_eq_conflict h with hconflict | ⟨hfirst, rfl, hrefuses⟩
    · obtain ⟨hsublist, hrefuses⟩ := ih hconflict
      exact ⟨hsublist.trans (List.sublist_append_left seen _), hrefuses⟩
    · have hmem : [first].Sublist seen := List.singleton_sublist.2 (mem_of_best hfirst)
      exact ⟨hmem.append (List.Sublist.refl [second]), hrefuses⟩

end SetterChoice

/-- The first setter of the wanted type is chosen; without one the setters are compared with
each other. -/
theorem chooseSetter_eq (wanted : Option DeclaredType) (choice : SetterChoice)
    (setters : List Discovered) :
    chooseSetter wanted choice setters =
      match setters.find? fun setter => wanted == some setter.paramType with
      | some exact => .best exact
      | none => setters.foldl SetterChoice.add choice := by
  induction setters generalizing choice with
  | nil => rfl
  | cons setter rest ih =>
    rw [chooseSetter, List.find?_cons]
    split
    · rename_i hwanted
      rw [hwanted]
    · rename_i hother
      rw [ih, Bool.eq_false_iff.2 hother]
      rfl

/-- The first setter of the wanted type is the first of its own. -/
theorem head?_settersOfType {wanted : Option DeclaredType} {setters : List Discovered}
    {exact : Discovered}
    (h : (setters.find? fun setter => wanted == some setter.paramType) = some exact) :
    (settersOfType setters exact.paramType).head? = some exact := by
  have hwanted := List.find?_some h
  cases wanted with
  | none => simp at hwanted
  | some type =>
    rw [Option.some_beq_some] at hwanted
    have hsame : (fun setter : Discovered => some type == some setter.paramType) =
        fun setter => setter.paramType == exact.paramType := by
      funext setter
      rw [Option.some_beq_some, BEq.congr_left hwanted, BEq.comm]
    rw [settersOfType, List.head?_filter, ← hsame, h]

/-! ## The setters of a class -/

/-- Putting types for type parameters brings in no nominal types but theirs. -/
theorem DeclaredType.nominalTypes_bind (env : TypeEnv) (type : DeclaredType) :
    (type.bind env).nominalTypes ⊆
      type.nominalTypes ++ (env.map Prod.snd).flatMap nominalTypes := by
  induction type with
  | var name =>
    unfold bind
    cases hget : env.get? name with
    | none => exact List.nil_subset _
    | some bound =>
      intro nominal hnominal
      have hbound : bound ∈ env.map Prod.snd :=
        List.mem_map.2 ⟨_, Entries.mem_of_get? hget, rfl⟩
      exact List.mem_append_right _ (List.mem_flatMap.2 ⟨bound, hbound, hnominal⟩)
  | list element ih => exact ih
  | array component ih => exact ih
  | _ => exact List.subset_append_left _ _

namespace ClassDecl

variable {decl : ClassDecl} {found : Discovered} {property : String}

theorem nominalTypes_resolve (h : found ∈ decl.discovered) {type : DeclaredType}
    (htype : type ∈ found.method.params) :
    (found.resolve type).nominalTypes ⊆ decl.methodTypes.flatMap DeclaredType.nominalTypes := by
  intro nominal hnominal
  rw [Discovered.resolve, DeclaredType.nominalTypes_erased] at hnominal
  rw [List.mem_flatMap]
  rcases List.mem_append.1 (DeclaredType.nominalTypes_bind found.env type hnominal) with
    hdeclared | hgiven
  · exact ⟨type, mem_methodTypes h (by simp [htype]), hdeclared⟩
  · obtain ⟨bound, hbound, hmem⟩ := List.mem_flatMap.1 hgiven
    exact ⟨bound, mem_methodTypes h (List.mem_append_left _ hbound), hmem⟩

theorem nominalTypes_setters (h : found ∈ decl.setters property) :
    found.paramType.nominalTypes ⊆ decl.methodTypes.flatMap DeclaredType.nominalTypes := by
  obtain ⟨hdiscovered, hsetter⟩ := List.mem_filter.1 (List.mem_filter.1 h).1
  have hone : found.method.params.length = 1 := by
    rw [Discovered.isSetter, Bool.and_eq_true, beq_iff_eq] at hsetter
    exact hsetter.1
  obtain ⟨param, hparam⟩ := List.length_eq_one_iff.1 hone
  have hmem : param ∈ found.method.params := by simp [hparam]
  have htype : found.paramType = found.resolve param := by
    simp [Discovered.paramType, hparam]
  rw [htype]
  exact nominalTypes_resolve hdiscovered hmem

end ClassDecl

/-! ## Tables -/

namespace PropertyTable

/-- Whether a property is read by a method, and what that yields is of a type. -/
def IsReadAs (table : PropertyTable) (property : String) (type : DeclaredType) : Prop :=
  ∃ name returns body,
    table.reader property = .ok (.method name returns body) ∧ (returns == type) = true

variable {owner : TypeKey} {decl : ClassDecl} {property : String}

theorem not_isReadAs {table : PropertyTable} {error : AccessError} {type : DeclaredType}
    (h : table.reader property = .error error) : ¬ table.IsReadAs property type := by
  rintro ⟨name, returns, body, hread, -⟩
  cases h.symm.trans hread

/-- A setter should match the type of the method that reads its property. -/
theorem wantedType_eq_some (hrecord : decl.isRecord = false) {type : DeclaredType} :
    wantedType (decl.methodReaders.get? property) = some type ↔
      ∃ name body, (build owner decl).reader property = .ok (.method name type body) := by
  rw [ClassDecl.get?_methodReaders]
  simp only [reader_eq_ok, get?_readers hrecord]
  cases hresolved : resolveGetter property (decl.getters property) with
  | none =>
    simp only [wantedType, Option.none_or, reduceCtorEq, false_iff]
    rintro ⟨name, body, hfield⟩
    obtain ⟨-, found, -, hreader⟩ := ClassDecl.get?_fieldReaders.1 hfield
    cases hreader
  | some accessor =>
    have hmethod := resolveGetter_isField hresolved
    cases accessor with
    | method => simp [wantedType, Accessor.isAmbiguous, Accessor.valueType]
    | field => cases hmethod
    | ambiguous => simp [wantedType, Accessor.isAmbiguous]

theorem wantedType_beq (hrecord : decl.isRecord = false) {type : DeclaredType} :
    (wantedType (decl.methodReaders.get? property) == some type) = true ↔
      (build owner decl).IsReadAs property type := by
  unfold IsReadAs
  constructor
  · intro h
    cases hwanted : wantedType (decl.methodReaders.get? property) with
    | none => simp [hwanted] at h
    | some returns =>
      obtain ⟨name, body, hread⟩ := (wantedType_eq_some hrecord).1 hwanted
      rw [hwanted, Option.some_beq_some] at h
      exact ⟨name, returns, body, hread, h⟩
  · rintro ⟨name, returns, body, hread, hequal⟩
    rw [(wantedType_eq_some hrecord).2 ⟨name, body, hread⟩, Option.some_beq_some]
    exact hequal

/-- How a property with setters is written: through the first setter of the type that it is
read as, or else through what comparing the setters comes to. -/
theorem writer_cases (owner : TypeKey) (hrecord : decl.isRecord = false)
    (hsetters : decl.setters property ≠ []) :
    ∃ accessor, (build owner decl).writer property = .ok accessor ∧
      ((∃ exact, (build owner decl).IsReadAs property exact.paramType ∧
        (settersOfType (decl.setters property) exact.paramType).head? = some exact ∧
        accessor = writerOf property exact) ∨
      ((∀ setter ∈ decl.setters property,
        ¬ (build owner decl).IsReadAs property setter.paramType) ∧
        (SetterChoice.ofSetters (decl.setters property)).accessor? property = some accessor)) := by
  have hsome : (resolveSetter property (decl.methodReaders.get? property)
      (decl.setters property)).isSome := resolveSetter_isSome.2 hsetters
  obtain ⟨accessor, hresolved⟩ := Option.isSome_iff_exists.1 hsome
  refine ⟨accessor, ?_, ?_⟩
  · rw [writer_eq_ok, get?_writers hrecord, hresolved, Option.some_or]
  · unfold resolveSetter at hresolved
    rw [chooseSetter_eq] at hresolved
    simp only [← wantedType_beq hrecord]
    cases hfind : (decl.setters property).find? fun setter =>
        wantedType (decl.methodReaders.get? property) == some setter.paramType with
    | some exact =>
      rw [hfind] at hresolved
      have hwanted := List.find?_some hfind
      exact .inl ⟨exact, hwanted, head?_settersOfType hfind, (Option.some.inj hresolved).symm⟩
    | none =>
      rw [hfind] at hresolved
      exact .inr ⟨List.find?_eq_none.1 hfind, hresolved⟩

/-- **The choice between setters is sound.**  A property with setters can be written.  If it
is read by a method and some setter takes exactly what that yields, it is written as that
type, whatever the other setters take.  Otherwise every setter accepts the type as which it is
written, or it reports two setters of which neither accepts the other's type. -/
theorem setter_choice_sound (owner : TypeKey) (decl : ClassDecl) (hrecord : decl.isRecord = false)
    (htypes : decl.HasConsistentTypes) (property : String)
    (hsetters : decl.setters property ≠ []) :
    ∃ accessor, (build owner decl).writer property = .ok accessor ∧
      (accessor.isAmbiguous = false →
        ∃ chosen ∈ decl.setters property, accessor = writerOf property chosen) ∧
      ((∃ setter ∈ decl.setters property,
        (build owner decl).IsReadAs property setter.paramType) →
          accessor.isAmbiguous = false ∧
            (build owner decl).IsReadAs property accessor.valueType) ∧
      ((∀ setter ∈ decl.setters property,
        ¬ (build owner decl).IsReadAs property setter.paramType) →
          (accessor.isAmbiguous = false → ∀ setter ∈ decl.setters property,
            setter.paramType.isAssignableFrom accessor.valueType = true) ∧
          (accessor.isAmbiguous = true → ∃ first second,
            [first, second].Sublist (decl.setters property) ∧
              first.paramType.isAssignableFrom second.paramType = false ∧
              second.paramType.isAssignableFrom first.paramType = false ∧
              accessor = .ambiguous first.paramType
                ⟨property, second.className, [first.identity, second.identity],
                  .setters first.paramType second.paramType⟩)) := by
  obtain ⟨accessor, hwrite, ⟨exact, hread, hfirst, rfl⟩ | ⟨hnone, hcompared⟩⟩ :=
    writer_cases owner hrecord hsetters
  · have hexact : exact ∈ decl.setters property :=
      (List.mem_filter.1 (List.mem_of_mem_head? hfirst)).1
    exact ⟨_, hwrite, fun _ => ⟨exact, hexact, rfl⟩, fun _ => ⟨rfl, hread⟩,
      fun hnone => absurd hread (hnone exact hexact)⟩
  · have hunread : ¬ ∃ setter ∈ decl.setters property,
        (build owner decl).IsReadAs property setter.paramType :=
      fun ⟨setter, hsetter, hread⟩ => hnone setter hsetter hread
    cases hchoice : SetterChoice.ofSetters (decl.setters property) with
    | undecided => exact absurd (SetterChoice.eq_nil_of_ofSetters hchoice) hsetters
    | best found =>
      rw [hchoice] at hcompared
      cases hcompared
      have haccepted := SetterChoice.accepted_of_best htypes
        (fun _ => ClassDecl.nominalTypes_setters) hchoice
      exact ⟨_, hwrite, fun _ => ⟨found, SetterChoice.mem_of_best hchoice, rfl⟩,
        fun hread => absurd hread hunread, fun _ => ⟨fun _ => haccepted, nofun⟩⟩
    | conflict first second =>
      rw [hchoice] at hcompared
      cases hcompared
      obtain ⟨hsublist, hrefuses, hrefuses'⟩ := SetterChoice.refuses_of_conflict hchoice
      exact ⟨_, hwrite, nofun, fun hread => absurd hread hunread,
        fun _ => ⟨nofun, fun _ => ⟨first, second, hsublist, hrefuses, hrefuses', rfl⟩⟩⟩

/-- A setter that puts its argument into a slot. -/
def setterInto (slot name : String) (param : DeclaredType) : MethodDecl :=
  ⟨name, [param], .void, false, .write ⟨slot, .any⟩⟩

/-- A parcel has a weight, a sender, of whom an item knows the kind only as a parameter, and a
code of an unknown kind. -/
def parcel : ClassDecl :=
  let item := { ClassDecl.empty "Item" with
    params := ["T"]
    methods := [setterInto "sender" "setSender" (.var "T")] }
  { ClassDecl.empty "Parcel" with
    superclass := some ⟨item, [heirOf "Firm" ["Person"]]⟩
    methods := [slotGetter "getWeight" .long, setterInto "weight" "setWeight" .string,
      setterInto "weight" "setWeight" .decimal, setterInto "weight" "setWeight" .long,
      setterInto "sender" "setSender" (heirOf "Person" []),
      setterInto "code" "setCode" .string, setterInto "code" "setCode" .long] }

/-- The weight of a parcel is set as it is read, its sender is a firm, and the two kinds of its
code cannot be told apart. -/
theorem setter_choice_sound_parcel :
    parcel.isRecord = false ∧ parcel.HasConsistentTypes ∧
    (∃ weight, (build ⟨0, "Parcel"⟩ parcel).writer "weight" = .ok weight ∧
      weight.isAmbiguous = false ∧
        (build ⟨0, "Parcel"⟩ parcel).IsReadAs "weight" weight.valueType) ∧
    (∃ sender, (build ⟨0, "Parcel"⟩ parcel).writer "sender" = .ok sender ∧
      sender.debugText = "Method(sender: Firm)" ∧
      ∀ setter ∈ parcel.setters "sender",
        setter.paramType.isAssignableFrom sender.valueType = true) ∧
    (∃ first second, [first, second].Sublist (parcel.setters "code") ∧
      first.paramType.isAssignableFrom second.paramType = false ∧
      (build ⟨0, "Parcel"⟩ parcel).writer "code" = .ok (.ambiguous first.paramType
        ⟨"code", second.className, [first.identity, second.identity],
          .setters first.paramType second.paramType⟩)) := by
  have htypes : parcel.HasConsistentTypes := by decide
  have hsound := setter_choice_sound ⟨0, "Parcel"⟩ parcel rfl htypes
  refine ⟨rfl, htypes, ?_, ?_, ?_⟩
  · obtain ⟨accessor, hwrite, -, hexact, -⟩ := hsound "weight" (List.cons_ne_nil _ _)
    have hsetter : ⟨setterInto "weight" "setWeight" .long, "Parcel", []⟩ ∈
      parcel.setters "weight" := .tail _ (.tail _ (.head _))
    exact ⟨accessor, hwrite, hexact ⟨_, hsetter, "weight", .long, _, rfl, rfl⟩⟩
  · obtain ⟨accessor, hwrite, -, -, hcompared⟩ := hsound "sender" (List.cons_ne_nil _ _)
    obtain ⟨firm, hfirm, htext, hclear⟩ : ∃ firm,
      (build ⟨0, "Parcel"⟩ parcel).writer "sender" = .ok firm ∧
        firm.debugText = "Method(sender: Firm)" ∧ firm.isAmbiguous = false :=
      ⟨_, rfl, by decide, rfl⟩
    obtain rfl : accessor = firm := Except.ok.inj (hwrite.symm.trans hfirm)
    obtain ⟨haccepted, -⟩ := hcompared fun _ _ => not_isReadAs rfl
    exact ⟨accessor, hwrite, htext, haccepted hclear⟩
  · obtain ⟨accessor, hwrite, -, -, hcompared⟩ := hsound "code" (List.cons_ne_nil _ _)
    obtain ⟨type, conflict, hconflict⟩ : ∃ type conflict,
      (build ⟨0, "Parcel"⟩ parcel).writer "code" = .ok (.ambiguous type conflict) := ⟨_, _, rfl⟩
    obtain rfl : accessor = .ambiguous type conflict :=
      Except.ok.inj (hwrite.symm.trans hconflict)
    obtain ⟨-, hreported⟩ := hcompared fun _ _ => not_isReadAs rfl
    obtain ⟨first, second, hsublist, hrefuses, -, heq⟩ := hreported rfl
    exact ⟨first, second, hsublist, hrefuses, heq ▸ hwrite⟩

/-! ## Setters of one type -/

/-- A property is written by a method only where it has setters. -/
theorem setters_ne_nil_of_writer (hrecord : decl.isRecord = false) {name : String}
    {type : DeclaredType} {body : Body}
    (hwrite : (build owner decl).writer property = .ok (.method name type body)) :
    decl.setters property ≠ [] := by
  intro hnil
  rw [writer_eq_ok, get?_writers hrecord, hnil] at hwrite
  obtain ⟨-, found, -, hwriter⟩ := ClassDecl.get?_fieldWriters.1 hwrite
  obtain ⟨-, body, -, haccessor⟩ := ClassDecl.writer?_eq_some.1 hwriter
  cases haccessor

/-- **Which of several setters of one type is taken.**  Of the setters of the type as which a
property is written by a method, it is the first one if the property is also read as that type
by a method, and the last one otherwise. -/
theorem method_writer_among_equals (owner : TypeKey) (decl : ClassDecl)
    (hrecord : decl.isRecord = false) (property name : String) (type : DeclaredType) (body : Body)
    (hwrite : (build owner decl).writer property = .ok (.method name type body)) :
    ∃ chosen, Accessor.method name type body = writerOf property chosen ∧
      ((build owner decl).IsReadAs property type →
        (settersOfType (decl.setters property) type).head? = some chosen) ∧
      (¬ (build owner decl).IsReadAs property type →
        (settersOfType (decl.setters property) type).getLast? = some chosen) := by
  obtain ⟨accessor, hwrite', hcases⟩ :=
    writer_cases owner hrecord (setters_ne_nil_of_writer hrecord hwrite)
  obtain rfl : accessor = .method name type body := Except.ok.inj (hwrite'.symm.trans hwrite)
  rcases hcases with ⟨exact, hread, hfirst, haccessor⟩ | ⟨hnone, hcompared⟩
  · obtain rfl : type = exact.paramType := (Accessor.method.inj haccessor).2.1
    exact ⟨exact, haccessor, fun _ => hfirst, fun hunread => absurd hread hunread⟩
  · cases hchoice : SetterChoice.ofSetters (decl.setters property) with
    | best found =>
      rw [hchoice] at hcompared
      have haccessor := (Option.some.inj hcompared).symm
      obtain rfl : type = found.paramType := (Accessor.method.inj haccessor).2.1
      exact ⟨found, haccessor,
        fun hread => absurd hread (hnone found (SetterChoice.mem_of_best hchoice)),
        fun _ => SetterChoice.getLast?_of_best hchoice⟩
    | _ =>
      rw [hchoice] at hcompared
      cases hcompared

/-- A ticket sets its price and its number itself, in place of setters that an entry has for
numbers of any type.  Its price can be read. -/
def ticket : ClassDecl :=
  let entry := { ClassDecl.empty "Entry" with
    params := ["T"]
    methods := [setterInto "inherited" "setPrice" (.var "T"),
      setterInto "inherited" "setNumber" (.var "T")] }
  { ClassDecl.empty "Ticket" with
    superclass := some ⟨entry, [.long]⟩
    methods := [slotGetter "getPrice" .long, setterInto "own" "setPrice" .long,
      setterInto "own" "setNumber" .long] }

/-- The price of a ticket is set by the ticket's own setter and its number by the inherited
one. -/
theorem method_writer_among_equals_ticket :
    (build ⟨0, "Ticket"⟩ ticket).writer "price" =
      .ok (.method "price" .long (.write ⟨"own", .any⟩)) ∧
    (∃ chosen, (settersOfType (ticket.setters "price") .long).head? = some chosen ∧
      Accessor.method "price" .long (.write ⟨"own", .any⟩) = writerOf "price" chosen) ∧
    (build ⟨0, "Ticket"⟩ ticket).writer "number" =
      .ok (.method "number" .long (.write ⟨"inherited", .any⟩)) ∧
    ∃ chosen, (settersOfType (ticket.setters "number") .long).getLast? = some chosen ∧
      Accessor.method "number" .long (.write ⟨"inherited", .any⟩) = writerOf "number" chosen := by
  have hprice : (build ⟨0, "Ticket"⟩ ticket).writer "price" =
    .ok (.method "price" .long (.write ⟨"own", .any⟩)) := rfl
  have hnumber : (build ⟨0, "Ticket"⟩ ticket).writer "number" =
    .ok (.method "number" .long (.write ⟨"inherited", .any⟩)) := rfl
  have hread : (build ⟨0, "Ticket"⟩ ticket).IsReadAs "price" .long :=
    ⟨"price", .long, _, rfl, rfl⟩
  have hunread : ¬ (build ⟨0, "Ticket"⟩ ticket).IsReadAs "number" .long := not_isReadAs rfl
  obtain ⟨own, hown, hfirst, -⟩ :=
    method_writer_among_equals ⟨0, "Ticket"⟩ ticket rfl "price" _ _ _ hprice
  obtain ⟨inherited, hinherited, -, hlast⟩ :=
    method_writer_among_equals ⟨0, "Ticket"⟩ ticket rfl "number" _ _ _ hnumber
  exact ⟨hprice, ⟨own, hfirst hread, hown⟩, hnumber, inherited, hlast hunread, hinherited⟩

/-- An inherited setter may be taken although one of its type was discovered before it. -/
theorem overriding_setter_replaced :
    ¬ ∀ (owner : TypeKey) (decl : ClassDecl), decl.isRecord = false →
      ∀ (property name : String) (type : DeclaredType) (body : Body),
        (build owner decl).writer property = .ok (.method name type body) →
          ∃ chosen, Accessor.method name type body = writerOf property chosen ∧
            (settersOfType (decl.setters property) type).head? = some chosen := by
  intro h
  obtain ⟨chosen, haccessor, hfirst⟩ := h ⟨0, "Ticket"⟩ ticket rfl "number" "number" .long
    (.write ⟨"inherited", .any⟩) rfl
  cases hfirst
  simp [writerOf, setterInto] at haccessor

end PropertyTable

end DynamicSql

import DynamicSql.Property.Declared

/-!
# What a signature tells of a method

A signature is the raw return type, the name and the raw parameter types in one
text.  Where no separator stands in a name, the text can be taken apart again:
methods with one signature agree in all three.
-/

namespace DynamicSql

/-! ## The texts of raw types -/

theorem HasNoSeparator.append {a b : String} (ha : HasNoSeparator a) (hb : HasNoSeparator b) :
    HasNoSeparator (a ++ b) := by
  intro c hc
  rw [String.toList_append] at hc
  rcases List.mem_append.1 hc with hc | hc
  · exact ha c hc
  · exact hb c hc

theorem HasNoSeparator.notMem {text : String} (h : HasNoSeparator text) {c : Char}
    (hc : isSeparator c = true) : c ∉ text.toList := by
  intro hmem
  rw [h c hmem] at hc
  cases hc

/-- Raw types are spelled without separators, as long as the names in them are. -/
theorem DeclaredType.hasNoSeparator_erased {type : DeclaredType}
    (h : ∀ name ∈ type.nominalNames, HasNoSeparator name) :
    HasNoSeparator type.erased.text := by
  induction type with
  | list element ih =>
    show HasNoSeparator ("List<" ++ element.erased.text ++ ">")
    have hopen : HasNoSeparator "List<" := by decide
    have hclose : HasNoSeparator ">" := by decide
    exact (hopen.append (ih h)).append hclose
  | array component ih =>
    show HasNoSeparator (component.erased.text ++ "[]")
    have hclose : HasNoSeparator "[]" := by decide
    exact (ih h).append hclose
  | named nominal => exact h nominal.name (by simp [DeclaredType.nominalNames])
  | var name =>
    show HasNoSeparator "Object"
    decide
  | _ => decide

/-- A text is cut in one way only before a character that does not stand in the first
part. -/
theorem cut_unique {c : Char} {first second rest other : List Char} (h : c ∉ first)
    (h' : c ∉ second) (hrest : ∀ x ∈ rest.head?, x = c) (hother : ∀ x ∈ other.head?, x = c)
    (heq : first ++ rest = second ++ other) : first = second ∧ rest = other := by
  rcases List.append_eq_append_iff.1 heq with ⟨between, hsecond, hbetween⟩ |
      ⟨between, hfirst, hbetween⟩
  · cases between with
    | nil => simp_all
    | cons x _ =>
      have hx : x = c := hrest x (by simp [hbetween])
      exact absurd (by simp [hsecond, hx]) h'
  · cases between with
    | nil => simp_all
    | cons x _ =>
      have hx : x = c := hother x (by simp [hbetween])
      exact absurd (by simp [hfirst, hx]) h

namespace MethodDecl

variable {method other : MethodDecl}

theorem SeparatorFree.hasNoSeparator (h : method.SeparatorFree) {type : DeclaredType}
    (hmem : type ∈ method.returns :: method.params) : HasNoSeparator type.erased.text :=
  DeclaredType.hasNoSeparator_erased fun name hname => h.types type hmem name hname

/-! ## Taking a signature apart -/

/-- The texts of the raw parameter types. -/
def paramTexts (method : MethodDecl) : List String :=
  method.params.map fun type => type.erased.text

/-- What follows the name in a signature. -/
def signatureTail (method : MethodDecl) : List Char :=
  match method.params with
  | [] => []
  | _ => ':' :: [','].intercalate (method.paramTexts.map String.toList)

theorem head?_signatureTail : ∀ x ∈ method.signatureTail.head?, x = ':' := by
  intro x hx
  unfold signatureTail at hx
  split at hx
  · simp at hx
  · simpa [eq_comm] using hx

theorem toList_signature (method : MethodDecl) :
    method.signature.toList =
      method.returns.erased.text.toList ++ '#' :: (method.name.toList ++ method.signatureTail) := by
  unfold signature signatureTail paramTexts
  cases method.params with
  | nil => simp
  | cons first rest => simp [String.toList_intercalate]

/-- The parameters can be read off the end of a signature. -/
theorem paramTexts_eq (h : method.SeparatorFree) (h' : other.SeparatorFree)
    (htail : method.signatureTail = other.signatureTail) :
    method.paramTexts = other.paramTexts := by
  have hsplit : ∀ {m : MethodDecl}, m.SeparatorFree → m.params ≠ [] →
      ([','].intercalate (m.paramTexts.map String.toList)).splitOn ',' =
        m.paramTexts.map String.toList := by
    intro m hm hne
    refine List.splitOn_intercalate ',' ?_ (by simpa [paramTexts] using hne)
    intro cs hcs
    simp only [paramTexts, List.map_map, List.mem_map, Function.comp_apply] at hcs
    obtain ⟨type, htype, rfl⟩ := hcs
    exact (hm.hasNoSeparator (List.mem_cons_of_mem _ htype)).notMem rfl
  unfold signatureTail at htail
  cases hp : method.params with
  | nil =>
    cases hq : other.params with
    | nil => simp [paramTexts, hp, hq]
    | cons => simp [hp, hq] at htail
  | cons first rest =>
    cases hq : other.params with
    | nil => simp [hp, hq] at htail
    | cons first' rest' =>
      simp only [hp, hq, List.cons.injEq, true_and] at htail
      have hmap := congrArg (List.splitOn ',') htail
      rw [hsplit h (by simp [hp]), hsplit h' (by simp [hq])] at hmap
      exact (List.map_inj_right fun _ _ => String.toList_injective).1 hmap

/-- Methods with one signature agree in their raw types and in their name. -/
theorem signature_inj (h : method.SeparatorFree) (h' : other.SeparatorFree)
    (heq : method.signature = other.signature) :
    method.returns.erased.text = other.returns.erased.text ∧ method.name = other.name ∧
      method.paramTexts = other.paramTexts := by
  have hreturns : ∀ {m : MethodDecl}, m.SeparatorFree → '#' ∉ m.returns.erased.text.toList :=
    fun hm => (hm.hasNoSeparator List.mem_cons_self).notMem rfl
  have hname : ∀ {m : MethodDecl}, m.SeparatorFree → ':' ∉ m.name.toList :=
    fun hm => HasNoSeparator.notMem hm.name rfl
  have hchars : method.signature.toList = other.signature.toList := by rw [heq]
  rw [toList_signature, toList_signature] at hchars
  obtain ⟨hreturn, hrest⟩ := cut_unique (hreturns h) (hreturns h') (by simp) (by simp) hchars
  obtain ⟨hnames, htail⟩ := cut_unique (hname h) (hname h') head?_signatureTail
    head?_signatureTail (List.cons.inj hrest).2
  exact ⟨String.toList_injective hreturn, String.toList_injective hnames, paramTexts_eq h h' htail⟩

end MethodDecl

end DynamicSql

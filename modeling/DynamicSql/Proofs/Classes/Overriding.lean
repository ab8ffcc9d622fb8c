import DynamicSql.Proofs.Classes.Places
import DynamicSql.Proofs.Types.Assignability

/-!
# Discovery keeps the first of what override each other

A signature is one flat text, but where no mark stands in a name, and no name is that of a
built-in type, it determines the raw types: the end of a text tells lists from arrays and both
from everything else (`IsPlain.text_eq_iff`), so methods with one signature override each other
(`signature_eq_iff`).  Of these discovery keeps the one at the first place of the hierarchy
(`ClassDecl.discovered_first_overrides`).
-/

namespace DynamicSql

/-! ## Texts of raw types -/

/-- The mark at the end of a text, if there is one. -/
def endMark? (text : String) : Option Char := text.toList.getLast?.filter isMark

theorem HasNoMark.endMark? {text : String} (h : HasNoMark text) : endMark? text = none := by
  unfold DynamicSql.endMark?
  rw [Option.filter_eq_none_iff]
  intro c hc
  simpa using h c (List.mem_of_getLast? hc)

namespace DeclaredType

/-- Whether a type is raw and the names in it are plain. -/
inductive IsPlain : DeclaredType → Prop
  | builtIn {type : DeclaredType} (h : type ∈ builtIns) : IsPlain type
  | named {type : NominalType} (h : IsPlainName type.name) : IsPlain (named type)
  | list {element : DeclaredType} (h : IsPlain element) : IsPlain (list element)
  | array {component : DeclaredType} (h : IsPlain component) : IsPlain (array component)

/-- The raw form of a type is plain if the names in the type are. -/
theorem isPlain_erased {type : DeclaredType} (h : ∀ name ∈ type.nominalNames, IsPlainName name) :
    type.erased.IsPlain := by
  induction type with
  | list element ih => exact .list (ih h)
  | array component ih => exact .array (ih h)
  | named nominal => exact .named (h nominal.name (by simp [nominalNames]))
  | var name => exact .builtIn (by simp [erased, substitute, builtIns, Entries.get?])
  | _ => exact .builtIn (by simp [erased, substitute, builtIns])

theorem endMark?_list (element : DeclaredType) : endMark? (list element).text = some '>' := by
  have hclose : (list element).text.toList = ("List<" ++ element.text).toList ++ ['>'] := by
    rw [text, String.toList_append]
    rfl
  rw [endMark?, hclose, List.getLast?_concat]
  rfl

theorem endMark?_array (component : DeclaredType) :
    endMark? (array component).text = some ']' := by
  have hclose : (array component).text.toList = (component.text.toList ++ ['[']) ++ [']'] := by
    rw [text, String.toList_append, List.append_assoc]
    rfl
  rw [endMark?, hclose, List.getLast?_concat]
  rfl

theorem endMark?_builtIn {type : DeclaredType} (h : type ∈ builtIns) :
    endMark? type.text = none := by
  revert type
  decide

theorem endMark?_named {type : NominalType} (h : IsPlainName type.name) :
    endMark? (named type).text = none :=
  h.1.endMark?

variable {a b : DeclaredType}

/-- A plain name is not the text of a built-in type. -/
theorem text_ne_of_isPlainName {type : NominalType} (h : IsPlainName type.name)
    (ha : a ∈ builtIns) : a.text ≠ (named type).text := fun htext =>
  h.2 (List.mem_map.2 ⟨a, ha, htext⟩)

/-- Equal types have one text. -/
theorem text_eq_of_beq (h : (a == b) = true) : a.text = b.text := by
  have hshape : ∀ type : DeclaredType, type.shape.text = type.text := by
    intro type
    induction type with
    | list element ih => rw [shape, text, text, ih]
    | array component ih => rw [shape, text, text, ih]
    | _ => rfl
  rw [← hshape a, beq_iff_shape.1 h, hshape b]

/-- Plain types are equal if their texts are. -/
theorem IsPlain.beq_of_text_eq (ha : a.IsPlain) (hb : b.IsPlain) (h : a.text = b.text) :
    (a == b) = true := by
  -- the texts have one end, which leaves the cases of one constructor and those without marks
  have hend : endMark? a.text = endMark? b.text := by rw [h]
  induction ha generalizing b with
  | builtIn hmem =>
    rw [endMark?_builtIn hmem] at hend
    cases hb with
    | builtIn hmem' =>
      have hinj : ∀ a ∈ builtIns, ∀ b ∈ builtIns, a.text = b.text → (a == b) = true := by decide
      exact hinj _ hmem _ hmem' h
    | named hname => exact absurd h (text_ne_of_isPlainName hname hmem)
    | list => simp [endMark?_list] at hend
    | array => simp [endMark?_array] at hend
  | named hname =>
    rw [endMark?_named hname] at hend
    cases hb with
    | builtIn hmem => exact absurd h.symm (text_ne_of_isPlainName hname hmem)
    | named => exact beq_named.2 ⟨_, rfl, h⟩
    | list => simp [endMark?_list] at hend
    | array => simp [endMark?_array] at hend
  | list _ ih =>
    rw [endMark?_list] at hend
    cases hb with
    | builtIn hmem => simp [endMark?_builtIn hmem] at hend
    | named hname => simp [endMark?_named hname] at hend
    | array => simp [endMark?_array] at hend
    | list hb =>
      have htext := (String.append_right_inj _).1 ((String.append_left_inj _).1 h)
      exact beq_list.2 ⟨_, rfl, ih hb htext (by rw [htext])⟩
  | array _ ih =>
    rw [endMark?_array] at hend
    cases hb with
    | builtIn hmem => simp [endMark?_builtIn hmem] at hend
    | named hname => simp [endMark?_named hname] at hend
    | list => simp [endMark?_list] at hend
    | array hb =>
      have htext := (String.append_left_inj _).1 h
      exact beq_array.2 ⟨_, rfl, ih hb htext (by rw [htext])⟩

/-- Plain types are equal exactly if their texts are. -/
theorem IsPlain.text_eq_iff (ha : a.IsPlain) (hb : b.IsPlain) :
    a.text = b.text ↔ (a == b) = true :=
  ⟨ha.beq_of_text_eq hb, text_eq_of_beq⟩

/-- Plain types in two lists are pairwise equal exactly if their texts are. -/
theorem map_text_eq_iff {as bs : List DeclaredType} (has : ∀ a ∈ as, a.IsPlain)
    (hbs : ∀ b ∈ bs, b.IsPlain) : as.map text = bs.map text ↔ (as == bs) = true := by
  induction as generalizing bs with
  | nil => cases bs <;> simp
  | cons a as ih =>
    cases bs with
    | nil => simp
    | cons b bs =>
      obtain ⟨ha, has⟩ := List.forall_mem_cons.1 has
      obtain ⟨hb, hbs⟩ := List.forall_mem_cons.1 hbs
      rw [List.map_cons, List.map_cons, List.cons.injEq, ha.text_eq_iff hb, ih has hbs,
        List.cons_beq_cons, Bool.and_eq_true]

end DeclaredType

/-! ## Signatures -/

theorem HasNoMark.hasNoSeparator {text : String} (h : HasNoMark text) : HasNoSeparator text := by
  intro c hc
  have hmark := h c hc
  simp only [isMark, Bool.or_eq_false_iff] at hmark
  exact hmark.1.1.1.1

namespace MethodDecl

variable {method other : MethodDecl}

theorem PlainlyNamed.separatorFree (h : method.PlainlyNamed) : method.SeparatorFree :=
  ⟨h.name.hasNoSeparator, fun type htype name hname =>
    (h.types type htype name hname).1.hasNoSeparator⟩

theorem PlainlyNamed.isPlain (h : method.PlainlyNamed) {type : DeclaredType}
    (htype : type ∈ method.returns :: method.params) : type.erased.IsPlain :=
  DeclaredType.isPlain_erased (h.types type htype)

theorem overrides_iff : method.overrides other = true ↔
    method.name = other.name ∧ (method.returns.erased == other.returns.erased) = true ∧
      (method.params.map DeclaredType.erased == other.params.map DeclaredType.erased) = true := by
  rw [overrides, Bool.and_eq_true, Bool.and_eq_true, beq_iff_eq, and_assoc]

/-- A signature is made of the texts of the raw types and the name. -/
theorem signature_congr (hreturns : method.returns.erased.text = other.returns.erased.text)
    (hname : method.name = other.name) (hparams : method.paramTexts = other.paramTexts) :
    method.signature = other.signature := by
  have htail : method.signatureTail = other.signatureTail := by
    unfold signatureTail
    rw [hparams]
    have hlength : method.params.length = other.params.length := by
      simpa [paramTexts] using congrArg List.length hparams
    cases hp : method.params <;> cases hq : other.params <;> simp_all
  rw [← String.toList_inj, toList_signature, toList_signature, hreturns, hname, htail]

/-- Plainly named methods override each other exactly if they have one signature. -/
theorem signature_eq_iff (h : method.PlainlyNamed) (h' : other.PlainlyNamed) :
    method.signature = other.signature ↔ method.overrides other = true := by
  have hreturns := (h.isPlain List.mem_cons_self).text_eq_iff (h'.isPlain List.mem_cons_self)
  have hplain : ∀ {m : MethodDecl}, m.PlainlyNamed →
      ∀ type ∈ m.params.map DeclaredType.erased, type.IsPlain := by
    intro m hm type htype
    obtain ⟨declared, hdeclared, rfl⟩ := List.mem_map.1 htype
    exact hm.isPlain (List.mem_cons_of_mem _ hdeclared)
  have hparams := DeclaredType.map_text_eq_iff (hplain h) (hplain h')
  rw [List.map_map, List.map_map] at hparams
  rw [overrides_iff, ← hreturns, ← hparams]
  constructor
  · intro hsame
    obtain ⟨hreturn, hname, htexts⟩ := signature_inj h.separatorFree h'.separatorFree hsame
    exact ⟨hname, hreturn, htexts⟩
  · rintro ⟨hname, hreturn, htexts⟩
    exact signature_congr hreturn hname htexts

end MethodDecl

/-! ## Discovery -/

instance (method : MethodDecl) : Decidable method.PlainlyNamed :=
  decidable_of_iff (HasNoMark method.name ∧
      ∀ type ∈ method.returns :: method.params, ∀ name ∈ type.nominalNames, IsPlainName name)
    ⟨fun h => ⟨h.1, h.2⟩, fun h => ⟨h.name, h.types⟩⟩

namespace ClassDecl

instance (decl : ClassDecl) : Decidable decl.PlainlyNamed :=
  decidable_of_iff (∀ layer ∈ decl.methodLayers, ∀ method ∈ layer.decl.methods,
      method.PlainlyNamed)
    (forall_congr' fun _ => by rw [mem_methodLayers])

variable {decl : ClassDecl} {found : Discovered} {method : MethodDecl}

/-- What stands at a place is what a layer declares and does not only forward. -/
theorem exists_methodAt?_iff : (∃ place, decl.methodAt? place = some found) ↔
    ∃ layer, decl.HasLayer layer ∧ found.method ∈ layer.decl.methods ∧
      found.method.bridge = false ∧ found = ⟨found.method, layer.decl.name, layer.env⟩ :=
  decl.inOrder_allMethods.mem_iff.symm.trans mem_allMethods

theorem PlainlyNamed.of_mem (h : decl.PlainlyNamed) (hfound : found ∈ decl.allMethods) :
    found.method.PlainlyNamed :=
  forall_mem_allMethods h found hfound

/-- Of the methods with one signature discovery keeps the one at the first place. -/
theorem exists_first_place (hfound : found ∈ decl.allMethods) :
    ∃ first kept, decl.methodAt? first = some kept ∧
      (decl.discovered.filter fun other => other.method.signature == found.method.signature) =
        [kept] ∧
      ∀ place other, decl.methodAt? place = some other →
        other.method.signature = found.method.signature → place = first ∨ first.Before place := by
  cases hsame : decl.allMethods.filter fun other =>
      other.method.signature == found.method.signature with
  | nil => exact absurd (beq_self_eq_true _) (List.filter_eq_nil_iff.1 hsame found hfound)
  | cons kept rest =>
    obtain ⟨earlier, later, hsplit, hearlier, -, -⟩ := List.filter_eq_cons_iff.1 hsame
    have hordered := decl.inOrder_allMethods
    rw [hsplit] at hordered
    obtain ⟨first, hfirst, hbefore⟩ := hordered.exists_place
    refine ⟨first, kept, hfirst, filter_firsts_eq_singleton hsame,
      fun place other hother hkey => ?_⟩
    exact hbefore place other hother fun hmem => hearlier other hmem (beq_iff_eq.2 hkey)

/-- **Discovery keeps the first of what override each other.**  Where no mark stands in the name
of a method or of a nominal type, and no nominal type is called as a built-in one, methods
override each other exactly if they have one signature.  So what is discovered stands at some
place of the hierarchy, and of what overrides a declared method just one is discovered: that at
the first place, with the types of its layer. -/
theorem discovered_first_overrides (decl : ClassDecl) (hnames : decl.PlainlyNamed) :
    (∀ method other : MethodDecl, method.PlainlyNamed → other.PlainlyNamed →
      (method.signature = other.signature ↔ method.overrides other = true)) ∧
    (∀ found ∈ decl.discovered, ∃ place, decl.methodAt? place = some found) ∧
    ∀ layer, decl.HasLayer layer → ∀ method ∈ layer.decl.methods, method.bridge = false →
      ∃ first kept, decl.methodAt? first = some kept ∧
        (decl.discovered.filter fun found => found.method.overrides method) = [kept] ∧
        ∀ place found, decl.methodAt? place = some found → found.method.overrides method = true →
          place = first ∨ first.Before place := by
  refine ⟨fun _ _ => MethodDecl.signature_eq_iff, fun found hfound => ?_,
    fun layer hlayer method hmethod hbridge => ?_⟩
  · exact exists_methodAt?_iff.2 (mem_allMethods.1 (mem_allMethods_of_mem_discovered hfound))
  · have hplain := hnames layer hlayer method hmethod
    have hdeclared : ⟨method, layer.decl.name, layer.env⟩ ∈ decl.allMethods :=
      mem_allMethods.2 ⟨layer, hlayer, hmethod, hbridge, rfl⟩
    obtain ⟨first, kept, hfirst, honly, hbefore⟩ := exists_first_place hdeclared
    refine ⟨first, kept, hfirst, ?_, fun place found hplace hfound => ?_⟩
    · rw [← honly]
      refine List.filter_congr fun found hfound => ?_
      have hfound := hnames.of_mem (mem_allMethods_of_mem_discovered hfound)
      rw [Bool.eq_iff_iff, beq_iff_eq, MethodDecl.signature_eq_iff hfound hplain]
    · have hmem := decl.inOrder_allMethods.mem_iff.2 ⟨place, hplace⟩
      exact hbefore place found hplace
        ((MethodDecl.signature_eq_iff (hnames.of_mem hmem) hplain).2 hfound)

/-- A bookshelf is a shelf of titles and a source of books, and both have a first item. -/
def bookshelf : ClassDecl :=
  let first : MethodDecl := ⟨"first", [], .var "T", false, .read (.slot "first")⟩
  let shelf := { ClassDecl.empty "Shelf" with
    params := ["T"]
    methods := [⟨"add", [.list (.var "T")], .void, false, .uncallable⟩, first] }
  let source := { ClassDecl.empty "Source" with params := ["T"], methods := [first] }
  { ClassDecl.empty "Bookshelf" with
    superclass := some ⟨shelf, [.string]⟩
    interfaces := [⟨source, [.named (.root "Book")]⟩]
    methods := [⟨"size", [], .integer, false, .read (.slot "size")⟩] }

/-- The source comes before the shelf, so the first item of a bookshelf is a book. -/
theorem discovered_first_overrides_bookshelf :
    bookshelf.PlainlyNamed ∧
    ∃ hidden, bookshelf.methodAt? ⟨1, [], 1⟩ = some hidden ∧ hidden.returnType = .string ∧
    ∃ first kept, bookshelf.methodAt? first = some kept ∧ first.Before ⟨1, [], 1⟩ ∧
      kept.className = "Source" ∧ kept.returnType = .named (.root "Book") ∧
      (bookshelf.discovered.filter fun found => found.method.overrides hidden.method) = [kept] := by
  have hnames : bookshelf.PlainlyNamed := by decide +kernel
  obtain ⟨-, -, hkept⟩ := discovered_first_overrides bookshelf hnames
  obtain ⟨first, kept, hfirst, honly, hbefore⟩ := hkept _ ⟨_, .inherited rfl (.self _), .self _⟩ _
    (List.mem_cons_of_mem _ List.mem_cons_self) rfl
  obtain rfl : kept = _ := (List.cons.inj (honly.symm.trans rfl)).1
  refine ⟨hnames, _, rfl, rfl, first, _, hfirst, ?_, rfl, rfl, honly⟩
  rcases hbefore ⟨1, [], 1⟩ _ rfl rfl with heq | hbefore
  · -- the hidden method is declared by another class
    subst heq
    exact absurd (congrArg Discovered.className (Option.some.inj hfirst)) (by decide)
  · exact hbefore

end ClassDecl

end DynamicSql

import DynamicSql.Classes.Overriding
import DynamicSql.Proofs.Classes.Discovery
import Mathlib.Data.List.Basic

/-!
# Places in a hierarchy

Going up the superclasses, through the interfaces of each class and through the methods of each
layer meets what stands at the places of a hierarchy, each place once and in the order of the
places (`ClassDecl.inOrder_allMethods`).
-/

namespace DynamicSql

/-! ## Lists in the order of places -/

/-- Whether a list holds what stands at the places, in the order of the places. -/
def InOrder {α β : Type} (before : α → α → Prop) (at? : α → Option β) (items : List β) : Prop :=
  ∃ places : List α, places.map at? = items.map some ∧ places.Pairwise before ∧
    ∀ place, (at? place).isSome = true → place ∈ places

namespace InOrder

variable {α β γ δ : Type} {before : α → α → Prop} {at? : α → Option β} {items : List β}

theorem mem_of_map_eq {places : List α} (h : places.map at? = items.map some) {place : α}
    {item : β} (hplace : place ∈ places) (hitem : at? place = some item) : item ∈ items := by
  have hmem : some item ∈ items.map some := h ▸ List.mem_map.2 ⟨place, hplace, hitem⟩
  obtain ⟨_, hmem, heq⟩ := List.mem_map.1 hmem
  exact Option.some.inj heq ▸ hmem

/-- The items of the list are those that have a place. -/
theorem mem_iff (h : InOrder before at? items) {item : β} :
    item ∈ items ↔ ∃ place, at? place = some item := by
  obtain ⟨places, hvalues, -, hcomplete⟩ := h
  constructor
  · intro hitem
    have hmem : some item ∈ places.map at? := hvalues ▸ List.mem_map.2 ⟨item, hitem, rfl⟩
    obtain ⟨place, -, hplace⟩ := List.mem_map.1 hmem
    exact ⟨place, hplace⟩
  · rintro ⟨place, hplace⟩
    exact mem_of_map_eq hvalues (hcomplete place (by rw [hplace, Option.isSome_some])) hplace

/-- An item has a place before those of all items behind it. -/
theorem exists_place {earlier later : List β} {item : β}
    (h : InOrder before at? (earlier ++ item :: later)) :
    ∃ place, at? place = some item ∧ ∀ other found, at? other = some found → found ∉ earlier →
      other = place ∨ before place other := by
  obtain ⟨places, hvalues, hordered, hcomplete⟩ := h
  rw [List.map_append, List.map_cons] at hvalues
  obtain ⟨front, back, rfl, hfront, hback⟩ := List.map_eq_append_iff.1 hvalues
  obtain ⟨place, behind, rfl, hplace, -⟩ := List.map_eq_cons_iff.1 hback
  refine ⟨place, hplace, fun other found hother hnew => ?_⟩
  have hmem := hcomplete other (by rw [hother, Option.isSome_some])
  rcases List.mem_append.1 hmem with hmem | hmem
  · exact absurd (mem_of_map_eq hfront hmem hother) hnew
  · rcases List.mem_cons.1 hmem with rfl | hmem
    · exact .inl rfl
    · exact .inr ((List.pairwise_cons.1 (List.pairwise_append.1 hordered).2.1).1 other hmem)

/-- The items of a list stand at their numbers. -/
theorem getElem? (items : List β) : InOrder (· < ·) (fun number : Nat => items[number]?) items := by
  refine ⟨List.range items.length, ?_, List.pairwise_lt_range, fun number hnumber => ?_⟩
  · exact List.ext_getElem (by simp) (by simp)
  · rw [List.mem_range]
    simpa using hnumber

theorem nil (before : α → α → Prop) : InOrder before (fun _ => (none : Option β)) [] :=
  ⟨[], rfl, List.Pairwise.nil, nofun⟩

/-- One more item at a place before all others, which are called otherwise then. -/
theorem cons (h : InOrder before at? items) {before' : γ → γ → Prop} {at?' : γ → Option β}
    {first : γ} {item : β} (rename : α → γ) (hfirst : at?' first = some item)
    (hrest : ∀ place, at?' (rename place) = at? place)
    (hall : ∀ place, place = first ∨ ∃ old, place = rename old)
    (hbefore : ∀ place, before' first (rename place))
    (hmono : ∀ place other, before place other → before' (rename place) (rename other)) :
    InOrder before' at?' (item :: items) := by
  obtain ⟨places, hvalues, hordered, hcomplete⟩ := h
  refine ⟨first :: places.map rename, ?_, ?_, fun place hplace => ?_⟩
  · rw [List.map_cons, List.map_cons, hfirst, List.map_map, ← hvalues]
    exact congrArg _ (List.map_congr_left fun place _ => hrest place)
  · refine List.pairwise_cons.2 ⟨fun place hplace => ?_, ?_⟩
    · obtain ⟨old, -, rfl⟩ := List.mem_map.1 hplace
      exact hbefore old
    · exact List.pairwise_map.2 (hordered.imp (hmono _ _))
  · rcases hall place with rfl | ⟨old, rfl⟩
    · exact List.mem_cons_self
    · rw [hrest] at hplace
      exact List.mem_cons_of_mem _ (List.mem_map.2 ⟨old, hcomplete old hplace, rfl⟩)

/-- Places may be called otherwise. -/
theorem map (h : InOrder before at? items) {before' : γ → γ → Prop} {at?' : γ → Option β}
    (rename : α → γ) (hat : ∀ place, at?' (rename place) = at? place)
    (hall : ∀ place, ∃ old, place = rename old)
    (hmono : ∀ place other, before place other → before' (rename place) (rename other)) :
    InOrder before' at?' items := by
  obtain ⟨places, hvalues, hordered, hcomplete⟩ := h
  refine ⟨places.map rename, ?_, List.pairwise_map.2 (hordered.imp (hmono _ _)),
    fun place hplace => ?_⟩
  · rw [List.map_map, ← hvalues]
    exact List.map_congr_left fun place _ => hat place
  · obtain ⟨old, rfl⟩ := hall place
    rw [hat] at hplace
    exact List.mem_map.2 ⟨old, hcomplete old hplace, rfl⟩

/-- The pairs of the places of items and of places within these lead to the items of the items. -/
theorem map_flatMap_eq {places : List α} (h : places.map at? = items.map some)
    {at?' : β → γ → Option δ} {inner : β → List δ} {within : β → List γ}
    (hwithin : ∀ item ∈ items, (within item).map (at?' item) = (inner item).map some) :
    ((places.flatMap fun place => ((at? place).elim [] within).map (place, ·)).map
        fun place => (at? place.1).bind fun item => at?' item place.2) =
      (items.flatMap inner).map some := by
  induction items generalizing places with
  | nil =>
    rw [List.map_nil, List.map_eq_nil_iff] at h
    rw [h]
    rfl
  | cons item rest ih =>
    obtain ⟨place, behind, rfl, hplace, hbehind⟩ := List.map_eq_cons_iff.1 h
    rw [List.flatMap_cons, List.flatMap_cons, List.map_append, List.map_append,
      ih hbehind fun item hitem => hwithin item (List.mem_cons_of_mem _ hitem),
      hplace, List.map_map, ← hwithin item List.mem_cons_self]
    congr 1
    exact List.map_congr_left fun second _ => by simp [hplace]

/-- Items of items stand at pairs of places, where the first one decides before the second. -/
theorem flatMap (h : InOrder before at? items) {before' : γ → γ → Prop}
    {at?' : β → γ → Option δ} {inner : β → List δ}
    (hinner : ∀ item ∈ items, InOrder before' (at?' item) (inner item)) :
    InOrder (fun place other : α × γ =>
        before place.1 other.1 ∨ place.1 = other.1 ∧ before' place.2 other.2)
      (fun place => (at? place.1).bind fun item => at?' item place.2) (items.flatMap inner) := by
  obtain ⟨places, hvalues, hordered, hcomplete⟩ := h
  have hchoice : ∀ item, ∃ within : List γ, item ∈ items →
      within.map (at?' item) = (inner item).map some ∧ within.Pairwise before' ∧
        ∀ place, (at?' item place).isSome = true → place ∈ within := by
    intro item
    by_cases hitem : item ∈ items
    · obtain ⟨within, hwithin⟩ := hinner item hitem
      exact ⟨within, fun _ => hwithin⟩
    · exact ⟨[], fun h => absurd h hitem⟩
  choose within hwithin using hchoice
  refine ⟨places.flatMap fun place => ((at? place).elim [] within).map (place, ·),
    map_flatMap_eq hvalues fun item hitem => (hwithin item hitem).1, ?_, ?_⟩
  · refine List.pairwise_flatMap.2 ⟨fun place hplace => ?_, ?_⟩
    · -- pairs with one first place are in the order of the second ones
      have hmem : at? place ∈ items.map some := hvalues ▸ List.mem_map.2 ⟨place, hplace, rfl⟩
      obtain ⟨item, hitem, heq⟩ := List.mem_map.1 hmem
      rw [← heq]
      exact List.pairwise_map.2 ((hwithin item hitem).2.1.imp fun hbefore => .inr ⟨rfl, hbefore⟩)
    · refine hordered.imp fun hbefore first hfirst second hsecond => ?_
      obtain ⟨_, -, rfl⟩ := List.mem_map.1 hfirst
      obtain ⟨_, -, rfl⟩ := List.mem_map.1 hsecond
      exact .inl hbefore
  · rintro ⟨place, second⟩ hplace
    obtain ⟨found, hfound⟩ := Option.isSome_iff_exists.1 hplace
    obtain ⟨item, heq, hsecond⟩ := Option.bind_eq_some_iff.1 hfound
    have hmem := hcomplete place (by rw [heq, Option.isSome_some])
    refine List.mem_flatMap.2 ⟨place, hmem, ?_⟩
    rw [heq]
    refine List.mem_map.2 ⟨second, ?_, rfl⟩
    exact (hwithin item (mem_of_map_eq hvalues hmem heq)).2.2 second
      (by rw [hsecond, Option.isSome_some])

end InOrder

/-! ## The walk through a hierarchy -/

open ClassDecl

namespace Layer

/-- Going up the superclasses lists them by height. -/
theorem inOrder_chain (layer : Layer) :
    InOrder (· < ·) layer.superclassAt (layer.decl.chain layer.env) := by
  induction layer using superclassInduction with
  | step layer ih =>
    have habove : InOrder (· < ·)
        (fun height => layer.decl.superclass.bind fun superclass =>
          (superclass.layer layer.env).superclassAt height)
        (chainAbove layer.env layer.decl.superclass) := by
      cases hs : layer.decl.superclass with
      | none =>
        rw [chainAbove]
        exact .nil _
      | some superclass =>
        rw [chainAbove_some]
        exact ih superclass hs
    rw [chain_eq]
    refine habove.cons Nat.succ rfl (fun _ => rfl) (fun height => ?_) Nat.succ_pos
      fun _ _ => Nat.succ_lt_succ
    cases height with
    | zero => exact .inl rfl
    | succ height => exact .inr ⟨height, rfl⟩

theorem allInterfaceLayers_eq_flatMap (env : TypeEnv) (interfaces : List Supertype) :
    allInterfaceLayers env interfaces = interfaces.flatMap fun interface =>
      (interface.layer env).decl.interfaceLayers (interface.layer env).env := by
  induction interfaces with
  | nil => rw [allInterfaceLayers_nil, List.flatMap_nil]
  | cons interface rest ih => rw [allInterfaceLayers_cons, ih, List.flatMap_cons]

/-- Going through the interfaces lists them in the order of the ways to them. -/
theorem inOrder_interfaceLayers (layer : Layer) :
    InOrder (· < ·) layer.interfaceAt (layer.decl.interfaceLayers layer.env) := by
  induction layer using interfaceInduction with
  | step layer ih =>
    rw [interfaceLayers_eq, allInterfaceLayers_eq_flatMap]
    refine ((InOrder.getElem? layer.decl.interfaces).flatMap ih).cons
      (fun way => way.1 :: way.2) rfl (fun _ => rfl) (fun way => ?_) (fun _ => List.Lex.nil)
      fun way other hbefore => List.cons_lt_cons_iff.2 hbefore
    cases way with
    | nil => exact .inl rfl
    | cons number rest => exact .inr ⟨(number, rest), rfl⟩

end Layer

/-- Discovery meets the methods of a hierarchy in the order of their places. -/
theorem ClassDecl.inOrder_allMethods (decl : ClassDecl) :
    InOrder MethodPlace.Before decl.methodAt? decl.allMethods := by
  have hlayers : decl.methodLayers = decl.fieldLayers.flatMap fun layer =>
      layer.decl.interfaceLayers layer.env := by
    unfold methodLayers
    exact List.flatMap_congr fun layer _ => (interfaceLayers_eq layer.env layer.decl).symm
  have hplaces := ((decl.bottom.inOrder_chain.flatMap fun layer _ =>
    layer.inOrder_interfaceLayers).flatMap fun layer _ => .getElem? (layerMethods layer))
  unfold allMethods
  rw [hlayers]
  refine hplaces.map (fun place => ⟨place.1.1, place.1.2, place.2⟩) (fun place => ?_)
    (fun place => ⟨((place.height, place.interfaces), place.index), rfl⟩) ?_
  · exact (Option.bind_assoc _ _ _).symm
  · rintro ⟨⟨_, _⟩, _⟩ ⟨⟨_, _⟩, _⟩ ((hheight | ⟨hheight, hway⟩) | ⟨hlayer, hindex⟩)
    · exact .inl hheight
    · exact .inr ⟨hheight, .inl hway⟩
    · obtain ⟨hheight, hway⟩ := Prod.mk.inj hlayer
      exact .inr ⟨hheight, .inr ⟨hway, hindex⟩⟩

end DynamicSql

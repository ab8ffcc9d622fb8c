import DynamicSql.Proofs.Property.Contents
import DynamicSql.Proofs.Types.Assignability
import DynamicSql.Property.Specificity

/-!
# The choice between getters

Comparing getters one after the other keeps the most specific of those seen so far, until it
meets one that this cannot be told from (`chooseGetter_outcome`).  So what is chosen stands
for all getters (`getter_choice_sound`).  A getter that is more specific than every other one
is chosen only where those discovered before it do not stop the comparison first
(`most_specific_getter_read`).
-/

namespace DynamicSql

namespace Discovered

variable {types : List NominalType} {seen : List Discovered}
  {winner candidate found other : Discovered}

/-! ## One comparison -/

/-- Whether a getter gives way to another: this one is more specific, or both are boolean and
this one starts with `is` if the first does. -/
def YieldsTo (found other : Discovered) : Prop :=
  other.IsBelow found ∨ (found.rawType = .boolean ∧ other.rawType = .boolean ∧
    (found.startsWithIs = true → other.startsWithIs = true))

/-- A comparison keeps the winner, replaces it or ends the search. -/
theorem chooseGetter_cons (winner candidate : Discovered) (rest : List Discovered) :
    (candidate.YieldsTo winner ∧
      chooseGetter winner (candidate :: rest) = chooseGetter winner rest) ∨
    (winner.YieldsTo candidate ∧
      chooseGetter winner (candidate :: rest) = chooseGetter candidate rest) ∨
    (winner.Clashes candidate ∧
      chooseGetter winner (candidate :: rest) = ⟨winner, some candidate⟩) := by
  rw [chooseGetter]
  split
  · rename_i hequal
    split
    · rename_i hboolean
      refine .inr (.inr ⟨.inl ⟨BEq.symm hequal, fun hwinner => ?_⟩, rfl⟩)
      have hcandidate : candidate.method.returns.erased = .boolean :=
        DeclaredType.beq_boolean.1 (hwinner ▸ hequal)
      rw [hcandidate] at hboolean
      cases hboolean
    · rename_i hboolean
      have hcandidate : candidate.method.returns.erased = .boolean := by
        simpa [DeclaredType.beq_boolean, bne] using hboolean
      have hwinner : winner.rawType = .boolean :=
        DeclaredType.beq_boolean.1 (hcandidate ▸ BEq.symm hequal)
      split
      · rename_i his
        exact .inr (.inl ⟨.inr ⟨hwinner, hcandidate, fun _ => his⟩, rfl⟩)
      · rename_i his
        exact .inl ⟨.inr ⟨hcandidate, hwinner, fun h => absurd h his⟩, rfl⟩
  · rename_i hdifferent
    have hdifferent : (candidate.rawType == winner.rawType) = false :=
      Bool.eq_false_iff.2 hdifferent
    split
    · rename_i haccepts
      exact .inl ⟨.inl ⟨BEq.comm.trans hdifferent, haccepts⟩, rfl⟩
    · rename_i hrefuses
      split
      · rename_i haccepts
        exact .inr (.inl ⟨.inl ⟨hdifferent, haccepts⟩, rfl⟩)
      · rename_i hrefuses'
        exact .inr (.inr ⟨.inr ⟨Bool.eq_false_iff.2 hrefuses', Bool.eq_false_iff.2 hrefuses⟩, rfl⟩)

/-- What a getter gives way to is at least as specific. -/
theorem YieldsTo.accepts (h : found.YieldsTo other) :
    found.rawType.isAssignableFrom other.rawType = true := by
  rcases h with hbelow | ⟨hfound, hother, -⟩
  · exact hbelow.2
  · rw [hfound, hother]
    exact DeclaredType.isAssignableFrom_of_beq BEq.rfl

/-- Getters of which one gives way can be told apart. -/
theorem YieldsTo.not_clashes (h : found.YieldsTo other) : ¬ other.Clashes found := by
  rintro (⟨hequal, hreference⟩ | ⟨-, hrefuses⟩)
  · rcases h with hbelow | ⟨-, hother, -⟩
    · rw [hbelow.1] at hequal
      cases hequal
    · exact hreference hother
  · rw [h.accepts] at hrefuses
    cases hrefuses

theorem clashes_symm (h : found.Clashes other) : other.Clashes found := by
  rcases h with ⟨hequal, hreference⟩ | ⟨hrefuses, hrefuses'⟩
  · refine .inl ⟨BEq.symm hequal, fun hother => hreference ?_⟩
    exact DeclaredType.beq_boolean.1 (hother ▸ hequal)
  · exact .inr ⟨hrefuses', hrefuses⟩

/-- Of getters that clash one accepts the other only where their types are equal. -/
theorem Clashes.equal_of_accepts (hclashes : found.Clashes other)
    (haccepts : found.rawType.isAssignableFrom other.rawType = true) :
    (found.rawType == other.rawType) = true := by
  rcases hclashes with ⟨hequal, -⟩ | ⟨hrefuses, -⟩
  · exact hequal
  · rw [haccepts] at hrefuses
    cases hrefuses

/-- Getters of equal types clash with the same getters. -/
theorem Clashes.congr (h : NominalType.Consistent types)
    (hfound : found.rawType.nominalTypes ⊆ types) (hother : other.rawType.nominalTypes ⊆ types)
    (hequal : (found.rawType == other.rawType) = true) (hclashes : found.Clashes candidate) :
    other.Clashes candidate := by
  rcases hclashes with ⟨hsame, hreference⟩ | ⟨hrefuses, hrefuses'⟩
  · refine .inl ⟨BEq.trans (BEq.symm hequal) hsame, fun hboolean => hreference ?_⟩
    exact DeclaredType.beq_boolean.1 (hboolean ▸ hequal)
  · rw [DeclaredType.isAssignableFrom_congr_left hequal] at hrefuses
    rw [DeclaredType.isAssignableFrom_congr_right h hfound hother hequal] at hrefuses'
    exact .inr ⟨hrefuses, hrefuses'⟩

/-! ## What a comparison keeps -/

theorem IsMostSpecific.mem (hmost : IsMostSpecific seen winner) : winner ∈ seen := by
  obtain ⟨before, after, hseen, -⟩ := hmost.alone
  simp [hseen]

/-- A winner to which one more getter gives way stands for this one, too. -/
theorem IsMostSpecific.keep (hmost : IsMostSpecific seen winner)
    (hyields : candidate.YieldsTo winner) : IsMostSpecific (seen ++ [candidate]) winner := by
  constructor
  case alone =>
    obtain ⟨before, after, hseen, halone⟩ := hmost.alone
    refine ⟨before, after ++ [candidate], by simp [hseen], fun other hother hequal => ?_⟩
    rw [← List.append_assoc, List.mem_append, List.mem_singleton] at hother
    rcases hother with hother | rfl
    · exact halone other hother hequal
    · rcases hyields with hbelow | ⟨-, hwinner, -⟩
      · rw [BEq.comm.trans hbelow.1] at hequal
        cases hequal
      · exact hwinner
  case accepted =>
    intro other hother
    rcases List.mem_append.1 hother with hother | hother
    · exact hmost.accepted other hother
    · rw [List.mem_singleton.1 hother]
      exact hyields.accepts
  case preferred =>
    intro hwinner other hother hboolean his
    rcases List.mem_append.1 hother with hother | hother
    · exact hmost.preferred hwinner other hother hboolean his
    · rw [List.mem_singleton.1 hother] at hboolean his
      rcases hyields with hbelow | ⟨-, -, hprefers⟩
      · have hdifferent := hbelow.1
        rw [hwinner, hboolean] at hdifferent
        cases hdifferent
      · exact hprefers his

section Consistent

variable (h : NominalType.Consistent types)
  (htypes : ∀ found ∈ seen ++ [candidate], found.rawType.nominalTypes ⊆ types)
  (hmost : IsMostSpecific seen winner)
include h htypes hmost

/-- A getter to which the winner gives way stands for all that the winner stood for. -/
theorem IsMostSpecific.replace (hyields : winner.YieldsTo candidate) :
    IsMostSpecific (seen ++ [candidate]) candidate := by
  have hwinner := hmost.mem
  have htyped : ∀ other ∈ seen, other.rawType.nominalTypes ⊆ types := fun other hother =>
    htypes other (List.mem_append_left _ hother)
  have hcandidate : candidate.rawType.nominalTypes ⊆ types := htypes candidate (by simp)
  -- among those seen only a boolean one can have the type of the candidate
  have hequal : ∀ other ∈ seen, (other.rawType == candidate.rawType) = true →
      winner.rawType = .boolean ∧ candidate.rawType = .boolean ∧
        (winner.startsWithIs = true → candidate.startsWithIs = true) := by
    intro other hother hequal
    rcases hyields with hbelow | hboolean
    · have haccepts : candidate.rawType.isAssignableFrom winner.rawType = true := by
        rw [← DeclaredType.isAssignableFrom_congr_left hequal]
        exact hmost.accepted other hother
      have hdifferent := hbelow.1
      rw [DeclaredType.beq_of_isAssignableFrom h hcandidate (htyped winner hwinner) haccepts
        hbelow.2] at hdifferent
      cases hdifferent
    · exact hboolean
  constructor
  case alone =>
    refine ⟨seen, [], rfl, fun other hother hsame => ?_⟩
    rw [List.append_nil] at hother
    exact (hequal other hother hsame).2.1
  case accepted =>
    intro other hother
    rcases List.mem_append.1 hother with hother | hother
    · exact DeclaredType.isAssignableFrom_trans h (htyped winner hwinner) hcandidate
        (hmost.accepted other hother) hyields.accepts
    · rw [List.mem_singleton.1 hother]
      exact DeclaredType.isAssignableFrom_of_beq BEq.rfl
  case preferred =>
    intro hboolean other hother hother_boolean his
    rcases List.mem_append.1 hother with hother | hother
    · obtain ⟨hwinner_boolean, -, hprefers⟩ :=
        hequal other hother (by rw [hother_boolean, hboolean]; exact BEq.rfl)
      exact hprefers (hmost.preferred hwinner_boolean other hother hother_boolean his)
    · rwa [List.mem_singleton.1 hother] at his

/-- What clashes with a getter that the winner does not clash with is less specific than the
winner, as is that getter. -/
theorem IsMostSpecific.below (hclear : ¬ winner.Clashes candidate) (hother : other ∈ seen)
    (hclashes : other.Clashes candidate) : winner.IsBelow other ∧ winner.IsBelow candidate := by
  have htyped : ∀ other ∈ seen, other.rawType.nominalTypes ⊆ types := fun other hother =>
    htypes other (List.mem_append_left _ hother)
  have hwinner := htyped winner hmost.mem
  have hcandidate : candidate.rawType.nominalTypes ⊆ types := htypes candidate (by simp)
  have haccepts := hmost.accepted other hother
  have hother_different : (winner.rawType == other.rawType) = false := Bool.eq_false_iff.2
    fun hequal => hclear (hclashes.congr h (htyped other hother) hwinner (BEq.symm hequal))
  have hdifferent : (winner.rawType == candidate.rawType) = false := by
    refine Bool.eq_false_iff.2 fun hequal => ?_
    have hclashes_winner : other.Clashes winner :=
      clashes_symm ((clashes_symm hclashes).congr h hcandidate hwinner (BEq.symm hequal))
    rw [BEq.symm (hclashes_winner.equal_of_accepts haccepts)] at hother_different
    cases hother_different
  have hbelow : candidate.rawType.isAssignableFrom winner.rawType = true := by
    refine Decidable.byContradiction fun hrefuses => ?_
    have hwinner_accepts : winner.rawType.isAssignableFrom candidate.rawType = true := by
      refine Decidable.byContradiction fun hrefuses' => ?_
      exact hclear (.inr ⟨Bool.eq_false_iff.2 hrefuses', Bool.eq_false_iff.2 hrefuses⟩)
    -- then `other` accepts the candidate, so that its type is that of the candidate
    have hequal := hclashes.equal_of_accepts
      (DeclaredType.isAssignableFrom_trans h hwinner hcandidate haccepts hwinner_accepts)
    rw [DeclaredType.isAssignableFrom_congr_left hequal] at haccepts
    exact hrefuses haccepts
  exact ⟨⟨hother_different, haccepts⟩, ⟨hdifferent, hbelow⟩⟩

end Consistent

/-! ## The whole comparison -/

theorem settled_singleton (found : Discovered) : Settled [found] := by
  intro earlier later rest hsplit other hother
  cases earlier with
  | nil => cases hother
  | cons first earlier => simp at hsplit

theorem Settled.snoc (hsettled : Settled seen)
    (hlast : ∀ other ∈ seen, other.Clashes candidate →
      ∃ below ∈ seen, below.IsBelow other ∧ below.IsBelow candidate) :
    Settled (seen ++ [candidate]) := by
  intro earlier later rest hsplit other hother hclashes
  rcases List.append_eq_append_iff.1 hsplit with ⟨more, hearlier, hlater⟩ | ⟨more, hseen, hlater⟩
  · obtain ⟨rfl, rfl⟩ : more = [] ∧ later = candidate := by
      cases more with
      | nil => exact ⟨rfl, (List.cons.inj hlater).1.symm⟩
      | cons first more => simp at hlater
    rw [List.append_nil] at hearlier
    exact hearlier ▸ hlast other (hearlier ▸ hother) hclashes
  · cases more with
    | nil =>
      obtain rfl : later = candidate := (List.cons.inj hlater).1
      rw [List.append_nil] at hseen
      exact hseen ▸ hlast other (hseen ▸ hother) hclashes
    | cons first more =>
      obtain ⟨rfl, -⟩ := List.cons.inj hlater
      exact hsettled earlier later more hseen other hother hclashes

theorem Settled.of_append {more : List Discovered} (hsettled : Settled (seen ++ more)) :
    Settled seen := by
  intro earlier later rest hsplit
  exact hsettled earlier later (rest ++ more) (by simp [hsplit])

/-- How the comparison of getters ends: with one that stands for all, or with one that stands
for those before the first that it clashes with. -/
inductive Outcome (getters : List Discovered) : GetterChoice → Prop
  | decided {chosen : Discovered} (hmost : IsMostSpecific getters chosen)
      (hsettled : Settled getters) : Outcome getters ⟨chosen, none⟩
  | clash {earlier after : List Discovered} {first rival : Discovered}
      (hsplit : getters = earlier ++ rival :: after) (hmost : IsMostSpecific earlier first)
      (hclashes : first.Clashes rival) : Outcome getters ⟨first, some rival⟩

/-- From a winner that stands for the getters seen so far the comparison ends in one of the two
ways. -/
theorem chooseGetter_outcome (h : NominalType.Consistent types) {rest : List Discovered}
    (htypes : ∀ found ∈ seen ++ rest, found.rawType.nominalTypes ⊆ types)
    (hmost : IsMostSpecific seen winner) (hsettled : Settled seen) :
    Outcome (seen ++ rest) (chooseGetter winner rest) := by
  induction rest generalizing seen winner with
  | nil =>
    rw [List.append_nil]
    exact .decided hmost hsettled
  | cons candidate rest ih =>
    have hsnoc : seen ++ candidate :: rest = seen ++ [candidate] ++ rest := by simp
    rw [hsnoc] at htypes ⊢
    have hseen : ∀ found ∈ seen ++ [candidate], found.rawType.nominalTypes ⊆ types :=
      fun found hfound => htypes found (List.mem_append_left _ hfound)
    -- whatever clashes with the candidate, the winner is more specific than both
    have hsettled_snoc : ¬ winner.Clashes candidate → Settled (seen ++ [candidate]) :=
      fun hclear => hsettled.snoc fun other hother hclashes =>
        ⟨winner, hmost.mem, hmost.below h hseen hclear hother hclashes⟩
    rcases chooseGetter_cons winner candidate rest with
      ⟨hyields, hkept⟩ | ⟨hyields, hreplaced⟩ | ⟨hclashes, hstopped⟩
    · rw [hkept]
      exact ih htypes (hmost.keep hyields) (hsettled_snoc hyields.not_clashes)
    · rw [hreplaced]
      exact ih htypes (hmost.replace h hseen hyields)
        (hsettled_snoc fun hclashes => hyields.not_clashes (clashes_symm hclashes))
    · rw [hstopped]
      exact .clash hsnoc.symm hmost hclashes

theorem isMostSpecific_singleton (found : Discovered) : IsMostSpecific [found] found := by
  constructor
  case alone => exact ⟨[], [], rfl, nofun⟩
  case accepted =>
    intro other hother
    rw [List.mem_singleton.1 hother]
    exact DeclaredType.isAssignableFrom_of_beq BEq.rfl
  case preferred =>
    intro _ other hother _ his
    rwa [List.mem_singleton.1 hother] at his

theorem resolveGetter_outcome (h : NominalType.Consistent types) {getters : List Discovered}
    (hne : getters ≠ []) (htypes : ∀ found ∈ getters, found.rawType.nominalTypes ⊆ types)
    (property : String) :
    ∃ choice, resolveGetter property getters = some (choice.accessor property) ∧
      Outcome getters choice := by
  cases getters with
  | nil => exact absurd rfl hne
  | cons first rest =>
    exact ⟨_, rfl, chooseGetter_outcome h htypes (isMostSpecific_singleton first)
      (settled_singleton first)⟩

/-! ## A getter below all others -/

/-- No getter is more specific than the one that stands for it. -/
theorem IsMostSpecific.not_below (h : NominalType.Consistent types)
    (htypes : ∀ found ∈ seen, found.rawType.nominalTypes ⊆ types)
    (hmost : IsMostSpecific seen winner) (hother : other ∈ seen) : ¬ other.IsBelow winner := by
  rintro ⟨hdifferent, haccepts⟩
  rw [DeclaredType.beq_of_isAssignableFrom h (htypes other hother) (htypes winner hmost.mem)
    (hmost.accepted other hother) haccepts] at hdifferent
  cases hdifferent

/-- A more specific getter can be told apart. -/
theorem IsBelow.not_clashes (hbelow : found.IsBelow other) : ¬ found.Clashes other :=
  YieldsTo.not_clashes (.inl hbelow)

section Best

variable {before after : List Discovered} {best : Discovered}
  (h : NominalType.Consistent types)
  (htypes : ∀ found ∈ before ++ best :: after, found.rawType.nominalTypes ⊆ types)
  (hbest : ∀ other ∈ before ++ after, best.IsBelow other)
include h htypes hbest

/-- Only the getter below all others stands for all. -/
theorem IsMostSpecific.eq_best (hmost : IsMostSpecific (before ++ best :: after) winner) :
    winner = best := by
  have hmem : winner ∈ before ++ after ∨ winner = best := by
    simpa [or_assoc, or_comm, or_left_comm] using hmost.mem
  refine hmem.resolve_left fun hmem => ?_
  exact hmost.not_below h htypes (by simp) (hbest winner hmem)

/-- What ends the comparison stands before the getter below all others. -/
theorem not_settled_of_clashes {earlier behind : List Discovered} {first rival : Discovered}
    (hsplit : before ++ best :: after = earlier ++ rival :: behind)
    (hmost : IsMostSpecific earlier first) (hclashes : first.Clashes rival) :
    ¬ Settled before := by
  intro hsettled
  have hearlier : ∀ found ∈ earlier, found.rawType.nominalTypes ⊆ types := fun found hfound =>
    htypes found (hsplit ▸ List.mem_append_left _ hfound)
  have hrival : earlier = before → rival ≠ best := by
    rintro rfl rfl
    exact (hbest first (List.mem_append_left _ hmost.mem)).not_clashes (clashes_symm hclashes)
  rcases List.append_eq_append_iff.1 hsplit with ⟨more, rfl, hmore⟩ | ⟨more, rfl, hmore⟩
  · cases more with
    | nil => exact hrival (List.append_nil _) (List.cons.inj hmore).1.symm
    | cons second more =>
      -- the clash is met behind `best`, which is the winner then
      obtain ⟨rfl, rfl⟩ : best = second ∧ after = more ++ rival :: behind := List.cons.inj hmore
      have hfirst : first = best := by
        refine hmost.eq_best h hearlier fun other hother => hbest other ?_
        rw [← List.append_assoc]
        exact List.mem_append_left _ hother
      rw [hfirst] at hclashes
      exact (hbest rival (by simp)).not_clashes hclashes
  · cases more with
    | nil => exact hrival (List.append_nil _).symm (List.cons.inj hmore).1
    | cons second more =>
      obtain ⟨rfl, -⟩ := List.cons.inj hmore
      obtain ⟨below, hbelow, hspecific, -⟩ :=
        hsettled earlier rival more rfl first hmost.mem hclashes
      exact hmost.not_below h hearlier hbelow hspecific

/-- A getter below all others is chosen where those before it are settled; otherwise they end
the comparison. -/
theorem resolveGetter_best (property : String) :
    (Settled before →
      resolveGetter property (before ++ best :: after) = some (readerOf property best)) ∧
    (¬ Settled before → ∃ accessor,
      resolveGetter property (before ++ best :: after) = some accessor ∧
        accessor.isAmbiguous = true) := by
  obtain ⟨choice, hresolved, houtcome⟩ := resolveGetter_outcome h (by simp) htypes property
  rw [hresolved]
  cases houtcome with
  | decided hmost hsettled =>
    rw [hmost.eq_best h htypes hbest]
    exact ⟨fun _ => rfl, fun hunsettled => absurd hsettled.of_append hunsettled⟩
  | clash hsplit hmost hclashes =>
    have hunsettled := not_settled_of_clashes h htypes hbest hsplit hmost hclashes
    exact ⟨fun hsettled => absurd hsettled hunsettled, fun _ => ⟨_, rfl, rfl⟩⟩

end Best

end Discovered

/-! ## The getters of a class -/

theorem DeclaredType.nominalTypes_erased (type : DeclaredType) :
    type.erased.nominalTypes = type.nominalTypes := by
  unfold erased
  induction type with
  | list element ih => exact ih
  | array component ih => exact ih
  | _ => rfl

namespace ClassDecl

variable {decl : ClassDecl} {found : Discovered} {type : DeclaredType} {property : String}

/-- The types that a discovered method is declared with and those that stand for type
parameters there are among the types of the methods of its class. -/
theorem mem_methodTypes (h : found ∈ decl.discovered)
    (htype : type ∈ found.env.map Prod.snd ++ found.method.returns :: found.method.params) :
    type ∈ decl.methodTypes := by
  obtain ⟨layer, hlayer, hmethod, -, hfound⟩ :=
    mem_allMethods.1 (mem_allMethods_of_mem_discovered h)
  have henv : found.env = layer.env := congrArg Discovered.env hfound
  refine List.mem_flatMap.2 ⟨layer, mem_methodLayers.2 hlayer, ?_⟩
  rw [henv] at htype
  rcases List.mem_append.1 htype with hgiven | hdeclared
  · exact List.mem_append_left _ hgiven
  · exact List.mem_append_right _ (List.mem_flatMap.2 ⟨found.method, hmethod, hdeclared⟩)

theorem nominalTypes_getters (h : found ∈ decl.getters property) :
    found.rawType.nominalTypes ⊆ decl.methodTypes.flatMap DeclaredType.nominalTypes := by
  have hdiscovered : found ∈ decl.discovered := (List.mem_filter.1 (List.mem_filter.1 h).1).1
  intro nominal hnominal
  rw [Discovered.rawType, DeclaredType.nominalTypes_erased] at hnominal
  exact List.mem_flatMap.2 ⟨_, mem_methodTypes hdiscovered (by simp), hnominal⟩

end ClassDecl

/-! ## Tables -/

namespace PropertyTable

open Discovered (IsMostSpecific Settled)

/-- A property with getters is read through what these are resolved to. -/
theorem reader_getters {owner : TypeKey} {decl : ClassDecl} {property : String}
    {accessor : Accessor} (hrecord : decl.isRecord = false)
    (h : resolveGetter property (decl.getters property) = some accessor) :
    (build owner decl).reader property = .ok accessor := by
  rw [reader_eq_ok, get?_readers hrecord, h, Option.some_or]

/-- **The choice between getters is sound.**  A property with getters can be read.  If its
accessor is not ambiguous, it is that of a getter that stands for all of them; if it is, it
reports two getters that cannot be told apart. -/
theorem getter_choice_sound (owner : TypeKey) (decl : ClassDecl) (hrecord : decl.isRecord = false)
    (htypes : decl.HasConsistentTypes) (property : String)
    (hgetters : decl.getters property ≠ []) :
    ∃ accessor, (build owner decl).reader property = .ok accessor ∧
      (accessor.isAmbiguous = false → ∃ chosen, accessor = readerOf property chosen ∧
        IsMostSpecific (decl.getters property) chosen) ∧
      (accessor.isAmbiguous = true → ∃ first second,
        [first, second].Sublist (decl.getters property) ∧ first.Clashes second ∧
          accessor = .ambiguous first.returnType
            ⟨property, first.className, [first.identity, second.identity], .getters⟩) := by
  obtain ⟨choice, hresolved, houtcome⟩ := Discovered.resolveGetter_outcome htypes hgetters
    (fun _ => ClassDecl.nominalTypes_getters) property
  refine ⟨_, reader_getters hrecord hresolved, ?_⟩
  cases houtcome with
  | decided hmost => exact ⟨fun _ => ⟨_, rfl, hmost⟩, nofun⟩
  | @clash earlier after first rival hsplit hmost hclashes =>
    have hfirst : [first].Sublist earlier := List.singleton_sublist.2 hmost.mem
    have hrival : [rival].Sublist (rival :: after) := List.singleton_sublist.2 List.mem_cons_self
    exact ⟨nofun, fun _ => ⟨first, rival, hsplit ▸ hfirst.append hrival, hclashes, rfl⟩⟩

/-- A getter that yields what is in a slot of its name. -/
def slotGetter (name : String) (returns : DeclaredType) : MethodDecl :=
  ⟨name, [], returns, false, .read (.slot name)⟩

/-- A nominal type with supertypes that have none. -/
def heirOf (name : String) (supertypes : List String) : DeclaredType :=
  .named (.mk name (supertypes.map .root))

/-- A shelter has a pet, is open or not, and has a guest of an unknown kind. -/
def shelter : ClassDecl :=
  { ClassDecl.empty "Shelter" with
    methods := [slotGetter "getPet" (heirOf "Animal" []), slotGetter "getOpen" .boolean,
      slotGetter "isOpen" .boolean, slotGetter "getPet" (heirOf "Dog" ["Animal"]),
      slotGetter "getGuest" (heirOf "Animal" []), slotGetter "getGuest" .string] }

/-- The pet of a shelter is a dog, `is` tells whether it is open, and the two kinds of its
guest cannot be told apart. -/
theorem getter_choice_sound_shelter :
    shelter.isRecord = false ∧ shelter.HasConsistentTypes ∧
    (∃ pet, (build ⟨0, "Shelter"⟩ shelter).reader "pet" = .ok pet ∧
      pet.debugText = "Method(pet: Dog)" ∧
      ∃ chosen, pet = readerOf "pet" chosen ∧
        IsMostSpecific (shelter.getters "pet") chosen) ∧
    (∃ chosen, (build ⟨0, "Shelter"⟩ shelter).reader "open" = .ok (readerOf "open" chosen) ∧
      IsMostSpecific (shelter.getters "open") chosen) ∧
    (∃ first second, [first, second].Sublist (shelter.getters "guest") ∧
      first.Clashes second ∧
      (build ⟨0, "Shelter"⟩ shelter).reader "guest" = .ok (.ambiguous first.returnType
        ⟨"guest", first.className, [first.identity, second.identity], .getters⟩)) := by
  have htypes : shelter.HasConsistentTypes := by decide
  have hsound := getter_choice_sound ⟨0, "Shelter"⟩ shelter rfl htypes
  refine ⟨rfl, htypes, ?_, ?_, ?_⟩
  · obtain ⟨accessor, hread, hclear, -⟩ := hsound "pet" (List.cons_ne_nil _ _)
    obtain ⟨dog, hdog⟩ : ∃ dog, (build ⟨0, "Shelter"⟩ shelter).reader "pet" = .ok dog ∧
      dog.debugText = "Method(pet: Dog)" ∧ dog.isAmbiguous = false := ⟨_, rfl, by decide, rfl⟩
    obtain rfl : accessor = dog := Except.ok.inj (hread.symm.trans hdog.1)
    exact ⟨accessor, hread, hdog.2.1, hclear hdog.2.2⟩
  · obtain ⟨accessor, hread, hclear, -⟩ := hsound "open" (List.cons_ne_nil _ _)
    obtain ⟨body, hbody⟩ : ∃ body, (build ⟨0, "Shelter"⟩ shelter).reader "open" =
      .ok (.method "open" .boolean body) := ⟨_, rfl⟩
    obtain rfl : accessor = .method "open" .boolean body :=
      Except.ok.inj (hread.symm.trans hbody)
    obtain ⟨chosen, hchosen, hmost⟩ := hclear rfl
    exact ⟨chosen, hchosen ▸ hread, hmost⟩
  · obtain ⟨accessor, hread, -, hambiguous⟩ := hsound "guest" (List.cons_ne_nil _ _)
    obtain ⟨type, conflict, hconflict⟩ : ∃ type conflict,
      (build ⟨0, "Shelter"⟩ shelter).reader "guest" = .ok (.ambiguous type conflict) :=
        ⟨_, _, rfl⟩
    obtain rfl : accessor = .ambiguous type conflict :=
      Except.ok.inj (hread.symm.trans hconflict)
    obtain ⟨first, second, hsub, hclashes, heq⟩ := hambiguous rfl
    exact ⟨first, second, hsub, hclashes, heq ▸ hread⟩

/-- **The most specific getter, and what comes before it.**  Where a getter of a property is
more specific than every other one, the property is read through it exactly if those
discovered before it are settled: of any two of them that clash, one discovered before the
later is more specific than both.  Otherwise the property is ambiguous. -/
theorem most_specific_getter_read (owner : TypeKey) (decl : ClassDecl)
    (hrecord : decl.isRecord = false) (htypes : decl.HasConsistentTypes) (property : String)
    {before after : List Discovered} {best : Discovered}
    (hgetters : decl.getters property = before ++ best :: after)
    (hbest : ∀ other ∈ before ++ after, best.IsBelow other) :
    (Settled before → (build owner decl).reader property = .ok (readerOf property best)) ∧
    (¬ Settled before → ∃ accessor, (build owner decl).reader property = .ok accessor ∧
      accessor.isAmbiguous = true) := by
  have htyped : ∀ found ∈ before ++ best :: after,
      found.rawType.nominalTypes ⊆ decl.methodTypes.flatMap DeclaredType.nominalTypes :=
    fun found hfound => ClassDecl.nominalTypes_getters (hgetters ▸ hfound)
  obtain ⟨hread, hambiguous⟩ := Discovered.resolveGetter_best htypes htyped hbest property
  rw [← hgetters] at hread hambiguous
  refine ⟨fun hsettled => reader_getters hrecord (hread hsettled), fun hunsettled => ?_⟩
  obtain ⟨accessor, hresolved, h⟩ := hambiguous hunsettled
  exact ⟨accessor, reader_getters hrecord hresolved, h⟩

/-- Those that can swim. -/
def swimmer : NominalType := .root "Swimmer"

/-- Those that can run. -/
def runner : NominalType := .root "Runner"

/-- Dogs can swim and run. -/
def dog : NominalType := .mk "Dog" [swimmer, runner]

/-- Puppies are dogs. -/
def puppy : NominalType := .mk "Puppy" [dog]

/-- A race whose winner is described in several ways. -/
def race (winners : List NominalType) : ClassDecl :=
  { ClassDecl.empty "Race" with
    methods := winners.map fun winner => slotGetter "getWinner" (.named winner) }

/-- The getter of a winner, as it is discovered. -/
def winnerGetter (winner : NominalType) : Discovered :=
  ⟨slotGetter "getWinner" (.named winner), "Race", []⟩

theorem dog_isBelow : ∀ other ∈ [swimmer, runner].map winnerGetter ++ [],
    (winnerGetter dog).IsBelow other := by
  simp only [List.append_nil, List.map_cons, List.map_nil, List.forall_mem_cons]
  exact ⟨⟨rfl, rfl⟩, ⟨rfl, rfl⟩, nofun⟩

/-- A puppy wins against swimmers and runners where a dog was discovered between these, but a
dog does not win where it is discovered behind them. -/
theorem most_specific_getter_read_race :
    (race [swimmer, dog, runner, puppy]).HasConsistentTypes ∧
    Settled ([swimmer, dog, runner].map winnerGetter) ∧
    (build ⟨0, "Race"⟩ (race [swimmer, dog, runner, puppy])).reader "winner" =
      .ok (readerOf "winner" (winnerGetter puppy)) ∧
    ¬ Settled ([swimmer, runner].map winnerGetter) ∧
    ∃ accessor, (build ⟨0, "Race"⟩ (race [swimmer, runner, dog])).reader "winner" = .ok accessor ∧
      accessor.isAmbiguous = true := by
  have htypes : (race [swimmer, dog, runner, puppy]).HasConsistentTypes := by decide
  have hswimmer : (winnerGetter dog).IsBelow (winnerGetter swimmer) := dog_isBelow _ (by simp)
  have hrunner : (winnerGetter dog).IsBelow (winnerGetter runner) := dog_isBelow _ (by simp)
  have hsettled : Settled ([swimmer, dog, runner].map winnerGetter) := by
    have hpair : Settled [winnerGetter swimmer, winnerGetter dog] := by
      refine (Discovered.settled_singleton _).snoc fun other hother hclashes => ?_
      rw [List.mem_singleton.1 hother] at hclashes
      exact absurd (Discovered.clashes_symm hclashes) hswimmer.not_clashes
    refine hpair.snoc fun other hother hclashes => ?_
    rcases List.mem_cons.1 hother with rfl | hother
    · exact ⟨winnerGetter dog, by simp, hswimmer, hrunner⟩
    · rw [List.mem_singleton.1 hother] at hclashes
      exact absurd hclashes hrunner.not_clashes
  have hunsettled : ¬ Settled ([swimmer, runner].map winnerGetter) := by
    intro h
    obtain ⟨below, hbelow, hspecific, -⟩ := h [winnerGetter swimmer] (winnerGetter runner) [] rfl
      (winnerGetter swimmer) List.mem_cons_self (.inr ⟨rfl, rfl⟩)
    rw [List.mem_singleton.1 hbelow] at hspecific
    cases hspecific.1
  have hpuppy : ∀ other ∈ [swimmer, dog, runner].map winnerGetter ++ [],
      (winnerGetter puppy).IsBelow other := by
    simp only [List.append_nil, List.map_cons, List.map_nil, List.forall_mem_cons]
    exact ⟨⟨rfl, rfl⟩, ⟨rfl, rfl⟩, ⟨rfl, rfl⟩, nofun⟩
  have hpuppies := most_specific_getter_read ⟨0, "Race"⟩ (race [swimmer, dog, runner, puppy]) rfl
    htypes "winner" rfl hpuppy
  have hdogs := most_specific_getter_read ⟨0, "Race"⟩ (race [swimmer, runner, dog]) rfl
    (by decide) "winner" rfl dog_isBelow
  exact ⟨htypes, hsettled, hpuppies.1 hsettled, hunsettled, hdogs.2 hunsettled⟩

/-- A more specific getter does not win where two that clash are discovered before it. -/
theorem most_specific_getter_missed :
    ¬ ∀ (owner : TypeKey) (decl : ClassDecl), decl.isRecord = false →
      decl.HasConsistentTypes → ∀ (property : String) (before after : List Discovered)
        (best : Discovered), decl.getters property = before ++ best :: after →
          (∀ other ∈ before ++ after, best.IsBelow other) →
            (build owner decl).reader property = .ok (readerOf property best) := by
  intro h
  have hread := h ⟨0, "Race"⟩ (race [swimmer, runner, dog]) rfl (by decide) "winner"
    ([swimmer, runner].map winnerGetter) [] (winnerGetter dog) rfl dog_isBelow
  cases hread

end PropertyTable

end DynamicSql

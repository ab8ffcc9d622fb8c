import DynamicSql.Property.TableRequests
import Mathlib.Algebra.GroupWithZero.Nat
import Mathlib.Data.Finset.Card
import Mathlib.Data.Finset.Dedup
import Mathlib.Data.List.Pairwise

/-!
# Which requests share a table

A cache of tables builds the table of a type when it is first asked for it and hands
out that same table until it is cleared.  What a request gets is therefore decided by
the calls before it: by the types that were requested since the last clear.
-/

namespace DynamicSql

/-! ## One request -/

namespace TableRequest

variable {heap : Heap} {request : TableRequest}

/-- An object describes itself as its type does. -/
theorem build_eq (h : request.Live heap) :
    PropertyTable.build (request.key heap) (request.decl heap) =
      heap.tableFor (request.key heap) := by
  cases request with
  | ofType type => rfl
  | ofObject id =>
    have hcell : heap.cells[id.index]? = some heap.cells[id.index] := List.getElem?_eq_getElem h
    show PropertyTable.build (heap.typeOf id) (heap.classOf id) = heap.tableFor (heap.typeOf id)
    unfold Heap.classOf Heap.tableFor Heap.typeOf Heap.cell
    rw [hcell]
    rfl

theorem AllLive.of_cons {call : CacheCall TableRequest} {calls : List (CacheCall TableRequest)}
    (h : AllLive heap (call :: calls)) : AllLive heap calls :=
  fun request hmem => h request (List.mem_cons_of_mem _ hmem)

theorem AllLive.head {calls : List (CacheCall TableRequest)}
    (h : AllLive heap (.request request :: calls)) : request.Live heap :=
  h request List.mem_cons_self

theorem allLive_append {calls more : List (CacheCall TableRequest)} :
    AllLive heap (calls ++ more) ↔ AllLive heap calls ∧ AllLive heap more := by
  unfold AllLive
  simp only [List.mem_append, or_imp, forall_and]

end TableRequest

namespace TableCache

open TableRequest (AllLive)

variable {heap : Heap} {cache : TableCache} {request : TableRequest} {type : TypeKey}
  {built : BuiltTable} {entries : List (TypeKey × BuiltTable)}

theorem get?_eq_lookup (entries : List (TypeKey × BuiltTable)) (type : TypeKey) :
    get? entries type = entries.lookup type := by
  induction entries with
  | nil => rfl
  | cons entry rest ih =>
    obtain ⟨key, old⟩ := entry
    by_cases hkey : key = type
    · subst hkey
      rw [get?, if_pos rfl, List.lookup_cons_self]
    · have hne : (type == key) = false := by simpa using Ne.symm hkey
      rw [get?, if_neg hkey, List.lookup_cons, hne, ih]

theorem mem_of_lookup (h : entries.lookup type = some built) : (type, built) ∈ entries := by
  obtain ⟨before, after, rfl, -⟩ := List.lookup_eq_some_iff.1 h
  exact List.mem_append_right _ List.mem_cons_self

theorem lookup_isSome : (entries.lookup type).isSome = true ↔ type ∈ entries.map Prod.fst := by
  rw [List.lookup_isSome_iff, List.mem_map]
  constructor
  · rintro ⟨entry, hentry, htype⟩
    exact ⟨entry, hentry, (beq_iff_eq.1 htype).symm⟩
  · rintro ⟨entry, hentry, htype⟩
    exact ⟨entry, hentry, beq_iff_eq.2 htype.symm⟩

/-- What a request does: it builds a table without keeping it, or finds one, or builds one
and keeps it. -/
theorem find_cases (h : request.Live heap) (cache : TableCache) :
    (cache.enabled = false ∧ cache.find heap request =
      (⟨cache.builds, heap.tableFor (request.key heap)⟩,
        { cache with builds := cache.builds + 1 })) ∨
    (∃ built, cache.enabled = true ∧ cache.entries.lookup (request.key heap) = some built ∧
      cache.find heap request = (built, cache)) ∨
    (cache.enabled = true ∧ cache.entries.lookup (request.key heap) = none ∧
      cache.find heap request =
        (⟨cache.builds, heap.tableFor (request.key heap)⟩,
          { cache with
            entries := cache.entries ++
              [(request.key heap, ⟨cache.builds, heap.tableFor (request.key heap)⟩)]
            builds := cache.builds + 1 })) := by
  unfold find TableCache.request
  simp only [TableRequest.build_eq h, get?_eq_lookup]
  cases cache.enabled with
  | false => exact .inl ⟨rfl, rfl⟩
  | true =>
    cases cache.entries.lookup (request.key heap) with
    | some built => exact .inr (.inl ⟨built, rfl, rfl, rfl⟩)
    | none => exact .inr (.inr ⟨rfl, rfl, rfl⟩)

/-! ## What stays through all calls -/

/-- The types that requests mean. -/
def typesOf (heap : Heap) (requests : List TableRequest) : Finset TypeKey :=
  (requests.map (TableRequest.key heap)).toFinset

theorem typesOf_cons (request : TableRequest) (requests : List TableRequest) :
    typesOf heap (request :: requests) = insert (request.key heap) (typesOf heap requests) := by
  simp [typesOf]

/-- Whether a cache is as the calls so far leave it: it holds one table for every type
requested since it was cleared, the later built behind the earlier built, and has built
that many tables and those that were cleared. -/
structure Holds (heap : Heap) (history : History TableRequest) (cache : TableCache) : Prop where
  enabled : cache.enabled = true
  types : (cache.entries.map Prod.fst).toFinset = typesOf heap history.recent
  ordered : cache.entries.Pairwise fun a b => a.1 ≠ b.1 ∧ a.2.serial < b.2.serial
  built : ∀ entry ∈ cache.entries,
    entry.2.serial < cache.builds ∧ entry.2.table = heap.tableFor entry.1
  builds_eq : cache.builds = (typesOf heap history.recent).card +
    (history.earlier.map fun requests => (typesOf heap requests).card).sum

namespace Holds

variable {history : History TableRequest}

theorem new (heap : Heap) : Holds heap .empty (.new true) where
  enabled := rfl
  types := rfl
  ordered := List.Pairwise.nil
  built := by simp [TableCache.new]
  builds_eq := rfl

theorem clear (h : Holds heap history cache) : Holds heap (history.note .clear) cache.clear where
  enabled := h.enabled
  types := rfl
  ordered := List.Pairwise.nil
  built := by simp [TableCache.clear]
  builds_eq := by
    show cache.builds = (typesOf heap []).card +
      ((history.recent :: history.earlier).map fun requests => (typesOf heap requests).card).sum
    rw [h.builds_eq, List.map_cons, List.sum_cons]
    simp [typesOf]

theorem mem_types (h : Holds heap history cache) :
    type ∈ typesOf heap history.recent ↔ (cache.entries.lookup type).isSome = true := by
  rw [← h.types, List.mem_toFinset, lookup_isSome]

/-- There is one entry for every type. -/
theorem length_eq (h : Holds heap history cache) :
    cache.entries.length = (typesOf heap history.recent).card := by
  have hnodup : (cache.entries.map Prod.fst).Nodup :=
    List.pairwise_map.2 (h.ordered.imp fun hab => hab.1)
  rw [← h.types, List.toFinset_card_of_nodup hnodup, List.length_map]

/-- A request for a type that has a table leaves everything as it is. -/
theorem find_held (h : Holds heap history cache)
    (hheld : (cache.entries.lookup (request.key heap)).isSome = true) :
    Holds heap (history.note (.request request)) cache := by
  have hsame : typesOf heap (request :: history.recent) = typesOf heap history.recent := by
    rw [typesOf_cons, Finset.insert_eq_of_mem (h.mem_types.2 hheld)]
  refine ⟨h.enabled, h.types.trans hsame.symm, h.ordered, h.built, ?_⟩
  show cache.builds = (typesOf heap (request :: history.recent)).card + _
  rw [hsame, h.builds_eq]
  rfl

/-- A request for a type without a table builds it behind the others. -/
theorem find_new (h : Holds heap history cache)
    (hmissing : cache.entries.lookup (request.key heap) = none) :
    Holds heap (history.note (.request request))
      { cache with
        entries := cache.entries ++
          [(request.key heap, ⟨cache.builds, heap.tableFor (request.key heap)⟩)]
        builds := cache.builds + 1 } := by
  have hnew : request.key heap ∉ typesOf heap history.recent := by
    rw [h.mem_types, hmissing]
    simp
  refine ⟨h.enabled, ?_, ?_, ?_, ?_⟩
  · show ((cache.entries ++ [_]).map Prod.fst).toFinset =
      typesOf heap (request :: history.recent)
    rw [typesOf_cons, ← h.types]
    ext type
    simp
  · show (cache.entries ++ [_]).Pairwise _
    rw [List.pairwise_append]
    refine ⟨h.ordered, List.pairwise_singleton _ _, ?_⟩
    intro entry hentry last hlast
    cases List.mem_singleton.1 hlast
    refine ⟨?_, (h.built entry hentry).1⟩
    intro hkey
    refine hnew ?_
    rw [← h.types, List.mem_toFinset]
    exact List.mem_map.2 ⟨entry, hentry, hkey⟩
  · intro entry hentry
    rcases List.mem_append.1 hentry with hentry | hlast
    · exact ⟨Nat.lt_succ_of_lt (h.built entry hentry).1, (h.built entry hentry).2⟩
    · cases List.mem_singleton.1 hlast
      exact ⟨Nat.lt_succ_self _, rfl⟩
  · show cache.builds + 1 = (typesOf heap (request :: history.recent)).card + _
    rw [typesOf_cons, Finset.card_insert_of_notMem hnew, h.builds_eq]
    show _ = _ + 1 + (history.earlier.map _).sum
    omega

theorem find (h : Holds heap history cache) (hlive : request.Live heap) :
    Holds heap (history.note (.request request)) (cache.find heap request).2 := by
  obtain ⟨henabled, -⟩ | ⟨built, -, hfound, hfind⟩ | ⟨-, hmissing, hfind⟩ :=
    find_cases hlive cache
  · rw [h.enabled] at henabled
    cases henabled
  · rw [hfind]
    exact h.find_held (Option.isSome_of_eq_some hfound)
  · rw [hfind]
    exact h.find_new hmissing

/-- **A cache holds what was requested, through all calls.** -/
theorem after (h : Holds heap history cache) {calls : List (CacheCall TableRequest)}
    (hlive : AllLive heap calls) :
    Holds heap (calls.foldl History.note history) (cache.after heap calls) := by
  induction calls generalizing history cache with
  | nil => exact h
  | cons call rest ih =>
    cases call with
    | request request => exact ih (h.find hlive.head) hlive.of_cons
    | clear => exact ih h.clear hlive.of_cons

/-- Two types do not have one table. -/
theorem serial_ne (h : Holds heap history cache) {other : TypeKey} {first second : BuiltTable}
    (hfirst : cache.entries.lookup type = some first)
    (hsecond : cache.entries.lookup other = some second) (hne : type ≠ other) :
    first.serial ≠ second.serial := by
  have hsymm : cache.entries.Pairwise fun a b => a.2.serial ≠ b.2.serial :=
    h.ordered.imp fun hab => Nat.ne_of_lt hab.2
  have hentries : ((type, first) : TypeKey × BuiltTable) ≠ (other, second) := by
    intro heq
    exact hne (congrArg Prod.fst heq)
  have : Std.Symm fun a b : TypeKey × BuiltTable => a.2.serial ≠ b.2.serial :=
    ⟨fun _ _ hab => hab.symm⟩
  exact hsymm.forall (mem_of_lookup hfirst) (mem_of_lookup hsecond) hentries

end Holds

/-! ## Tables that are kept, and tables that are not -/

section Calls

variable {calls more : List (CacheCall TableRequest)}

theorem after_append (cache : TableCache) (calls more : List (CacheCall TableRequest)) :
    cache.after heap (calls ++ more) = (cache.after heap calls).after heap more :=
  List.foldl_append

/-- What a request gets is kept, where anything is. -/
theorem lookup_find (hlive : request.Live heap) (henabled : cache.enabled = true) :
    (cache.find heap request).2.entries.lookup (request.key heap) =
      some (cache.find heap request).1 := by
  obtain ⟨hdisabled, -⟩ | ⟨built, -, hfound, hfind⟩ | ⟨-, hmissing, hfind⟩ :=
    find_cases hlive cache
  · rw [henabled] at hdisabled
    cases hdisabled
  · rw [hfind]
    exact hfound
  · rw [hfind]
    show (cache.entries ++ [_]).lookup _ = _
    rw [List.lookup_append, hmissing, Option.none_or, List.lookup_cons_self]

/-- A table that is held stays until everything is dropped. -/
theorem lookup_after (hlookup : cache.entries.lookup type = some built)
    (hclear : .clear ∉ calls) (hlive : AllLive heap calls) :
    (cache.after heap calls).entries.lookup type = some built := by
  induction calls generalizing cache with
  | nil => exact hlookup
  | cons call rest ih =>
    cases call with
    | clear => exact absurd List.mem_cons_self hclear
    | request request =>
      refine ih ?_ (fun hmem => hclear (List.mem_cons_of_mem _ hmem)) hlive.of_cons
      show (cache.find heap request).2.entries.lookup type = some built
      obtain ⟨-, hfind⟩ | ⟨_, -, -, hfind⟩ | ⟨-, -, hfind⟩ := find_cases hlive.head cache
      · rw [hfind]
        exact hlookup
      · rw [hfind]
        exact hlookup
      · rw [hfind]
        show (cache.entries ++ [_]).lookup type = some built
        rw [List.lookup_append, hlookup]
        rfl

/-- Whether all tables that a cache holds or builds from now on have serial numbers of at
least `n`. -/
structure BuiltSince (n : Nat) (cache : TableCache) : Prop where
  builds : n ≤ cache.builds
  entries : ∀ entry ∈ cache.entries, n ≤ entry.2.serial

namespace BuiltSince

variable {n : Nat}

/-- After a clear everything is built anew. -/
theorem clear (h : n ≤ cache.builds) : BuiltSince n cache.clear :=
  ⟨h, by simp [TableCache.clear]⟩

theorem find (h : BuiltSince n cache) (hlive : request.Live heap) :
    n ≤ (cache.find heap request).1.serial ∧ BuiltSince n (cache.find heap request).2 := by
  have hbuilds := h.builds
  obtain ⟨-, hfind⟩ | ⟨built, -, hfound, hfind⟩ | ⟨-, -, hfind⟩ := find_cases hlive cache
  · rw [hfind]
    exact ⟨hbuilds, Nat.le_succ_of_le hbuilds, h.entries⟩
  · rw [hfind]
    exact ⟨h.entries _ (mem_of_lookup hfound), h⟩
  · rw [hfind]
    refine ⟨hbuilds, Nat.le_succ_of_le hbuilds, ?_⟩
    intro entry hentry
    rcases List.mem_append.1 hentry with hentry | hlast
    · exact h.entries entry hentry
    · cases List.mem_singleton.1 hlast
      exact hbuilds

theorem after (h : BuiltSince n cache) (hlive : AllLive heap calls) :
    BuiltSince n (cache.after heap calls) := by
  induction calls generalizing cache with
  | nil => exact h
  | cons call rest ih =>
    cases call with
    | request request => exact ih (h.find hlive.head).2 hlive.of_cons
    | clear => exact ih (.clear h.builds) hlive.of_cons

end BuiltSince

/-- The number of builds never goes down. -/
theorem builds_le_after (cache : TableCache) (hlive : AllLive heap calls) :
    cache.builds ≤ (cache.after heap calls).builds := by
  induction calls generalizing cache with
  | nil => exact Nat.le_refl _
  | cons call rest ih =>
    refine Nat.le_trans ?_ (ih (cache.perform heap call) hlive.of_cons)
    cases call with
    | clear => exact Nat.le_refl _
    | request request =>
      show cache.builds ≤ (cache.find heap request).2.builds
      obtain ⟨-, hfind⟩ | ⟨_, -, -, hfind⟩ | ⟨-, -, hfind⟩ := find_cases hlive.head cache
      · rw [hfind]
        exact Nat.le_succ _
      · rw [hfind]
      · rw [hfind]
        exact Nat.le_succ _

end Calls

/-! ## A cache that keeps nothing -/

/-- Whether a cache has kept no table of those it was asked for. -/
structure Spends (requests : Nat) (cache : TableCache) : Prop where
  enabled : cache.enabled = false
  entries : cache.entries = []
  builds : cache.builds = requests

namespace Spends

variable {requests : Nat}

theorem new : Spends 0 (.new false) := ⟨rfl, rfl, rfl⟩

theorem perform (h : Spends requests cache) {call : CacheCall TableRequest}
    (hlive : AllLive heap [call]) :
    Spends (requests + [call].countP CacheCall.isRequest) (cache.perform heap call) := by
  cases call with
  | clear => exact ⟨h.enabled, rfl, h.builds⟩
  | request request =>
    obtain ⟨-, hfind⟩ | ⟨_, henabled, -⟩ | ⟨henabled, -⟩ := find_cases hlive.head cache
    · show Spends _ (cache.find heap request).2
      rw [hfind]
      exact ⟨h.enabled, h.entries, congrArg (· + 1) h.builds⟩
    · rw [h.enabled] at henabled
      cases henabled
    · rw [h.enabled] at henabled
      cases henabled

theorem after (h : Spends requests cache) {calls : List (CacheCall TableRequest)}
    (hlive : AllLive heap calls) :
    Spends (requests + calls.countP CacheCall.isRequest) (cache.after heap calls) := by
  induction calls generalizing requests cache with
  | nil => exact h
  | cons call rest ih =>
    obtain ⟨hcall, hrest⟩ := TableRequest.allLive_append.1
      (show AllLive heap ([call] ++ rest) from hlive)
    have hstep := ih (h.perform hcall) hrest
    rwa [Nat.add_assoc, ← List.countP_append] at hstep

end Spends

/-! ## Which requests share a table -/

section Sharing

variable {enabled : Bool} {before between : List (CacheCall TableRequest)}
  {first second : TableRequest}

theorem answer_append (heap : Heap) (enabled : Bool)
    (before between : List (CacheCall TableRequest)) (first second : TableRequest) :
    answer heap enabled (before ++ .request first :: between) second =
      (((((new enabled).after heap before).find heap first).2.after heap between).find heap
        second).1 := by
  unfold answer
  rw [after_append]
  rfl

/-- A table that was handed out has been built by then. -/
theorem serial_lt_builds (hbuilt : ∀ entry ∈ cache.entries, entry.2.serial < cache.builds)
    (hlive : request.Live heap) :
    (cache.find heap request).1.serial < (cache.find heap request).2.builds := by
  obtain ⟨-, hfind⟩ | ⟨built, -, hfound, hfind⟩ | ⟨-, -, hfind⟩ := find_cases hlive cache
  · rw [hfind]
    exact Nat.lt_succ_self _
  · rw [hfind]
    exact hbuilt _ (mem_of_lookup hfound)
  · rw [hfind]
    exact Nat.lt_succ_self _

/-- Without a cache no request gets what another one got. -/
theorem serial_ne_of_disabled (hbefore : AllLive heap before) (hfirst : first.Live heap)
    (hbetween : AllLive heap between) (hsecond : second.Live heap) :
    (answer heap false before first).serial ≠
      (answer heap false (before ++ .request first :: between) second).serial := by
  have hspends := Spends.new.after hbefore
  rw [answer_append]
  unfold answer
  generalize (new false).after heap before = cache at hspends ⊢
  have hnone : ∀ entry ∈ cache.entries, entry.2.serial < cache.builds := by
    simp [hspends.entries]
  have hsince : BuiltSince (cache.find heap first).2.builds (cache.find heap first).2 := by
    refine ⟨Nat.le_refl _, ?_⟩
    obtain ⟨-, hfind⟩ | ⟨_, henabled, -⟩ | ⟨henabled, -⟩ := find_cases hfirst cache
    · rw [hfind, hspends.entries]
      simp
    · rw [hspends.enabled] at henabled
      cases henabled
    · rw [hspends.enabled] at henabled
      cases henabled
  exact Nat.ne_of_lt (Nat.lt_of_lt_of_le (serial_lt_builds hnone hfirst)
    ((hsince.after hbetween).find hsecond).1)

/-- Over a clear no request gets what another one got. -/
theorem serial_ne_of_clear (hclear : .clear ∈ between) (hbefore : AllLive heap before)
    (hfirst : first.Live heap) (hbetween : AllLive heap between) (hsecond : second.Live heap) :
    (answer heap true before first).serial ≠
      (answer heap true (before ++ .request first :: between) second).serial := by
  have hholds : Holds heap _ ((new true).after heap before) := (Holds.new heap).after hbefore
  obtain ⟨earlier, later, rfl⟩ := List.append_of_mem hclear
  obtain ⟨hearlier, hlater⟩ := TableRequest.allLive_append.1 hbetween
  rw [answer_append, after_append]
  unfold answer
  generalize (new true).after heap before = cache at hholds ⊢
  have hlt : (cache.find heap first).1.serial < (cache.find heap first).2.builds :=
    serial_lt_builds (fun entry hentry => (hholds.built entry hentry).1) hfirst
  have hle := builds_le_after (cache.find heap first).2 hearlier
  have hsince := (BuiltSince.clear (Nat.lt_of_lt_of_le hlt hle)).after hlater.of_cons
  exact Nat.ne_of_lt (hsince.find hsecond).1

/-- Between clears the requests for one type get one table. -/
theorem serial_eq_iff_of_kept (hclear : .clear ∉ between) (hbefore : AllLive heap before)
    (hfirst : first.Live heap) (hbetween : AllLive heap between) (hsecond : second.Live heap) :
    (answer heap true before first).serial =
        (answer heap true (before ++ .request first :: between) second).serial ↔
      first.key heap = second.key heap := by
  have hholds : Holds heap _ ((new true).after heap before) := (Holds.new heap).after hbefore
  rw [answer_append]
  unfold answer
  generalize (new true).after heap before = cache at hholds ⊢
  -- both tables are held after the second request
  have hlast := (hholds.find hfirst).after hbetween
  have hsecondHeld := lookup_find hsecond hlast.enabled
  have hfirstHeld : (((cache.find heap first).2.after heap between).find heap
      second).2.entries.lookup (first.key heap) = some (cache.find heap first).1 := by
    have hcalls : AllLive heap (between ++ [.request second]) := by
      refine TableRequest.allLive_append.2 ⟨hbetween, ?_⟩
      intro request hrequest
      cases List.mem_singleton.1 hrequest
      exact hsecond
    have hkept := lookup_after (lookup_find hfirst hholds.enabled) (by simpa using hclear) hcalls
    rw [after_append] at hkept
    exact hkept
  constructor
  · intro hserial
    by_contra hne
    exact (hlast.find hsecond).serial_ne hfirstHeld hsecondHeld hne hserial
  · intro hkey
    rw [hkey, hsecondHeld] at hfirstHeld
    exact congrArg BuiltTable.serial (Option.some.inj hfirstHeld).symm

/-- Two requests get one table exactly if they are for one type, without a clear between
them, and tables are kept at all. -/
theorem serial_eq_iff (enabled : Bool) (hbefore : AllLive heap before)
    (hfirst : first.Live heap) (hbetween : AllLive heap between) (hsecond : second.Live heap) :
    (answer heap enabled before first).serial =
        (answer heap enabled (before ++ .request first :: between) second).serial ↔
      enabled = true ∧ first.key heap = second.key heap ∧ .clear ∉ between := by
  cases enabled with
  | false => simp [serial_ne_of_disabled hbefore hfirst hbetween hsecond]
  | true =>
    by_cases hclear : .clear ∈ between
    · simp [hclear, serial_ne_of_clear hclear hbefore hfirst hbetween hsecond]
    · simp [hclear, serial_eq_iff_of_kept hclear hbefore hfirst hbetween hsecond]

/-- Every request gets the table of its type. -/
theorem table_answer (enabled : Bool) (hbefore : AllLive heap before) (hfirst : first.Live heap) :
    (answer heap enabled before first).table = heap.tableFor (first.key heap) := by
  unfold answer
  obtain ⟨-, hfind⟩ | ⟨built, henabled, hfound, hfind⟩ | ⟨-, -, hfind⟩ :=
    find_cases hfirst ((new enabled).after heap before)
  · rw [hfind]
  · rw [hfind]
    cases enabled with
    | false =>
      have hspends := Spends.new.after hbefore
      rw [hspends.enabled] at henabled
      cases henabled
    | true =>
      have hholds := (Holds.new heap).after hbefore
      exact (hholds.built _ (mem_of_lookup hfound)).2
  · rw [hfind]

end Sharing

end TableCache

/-! ## Tables in places -/

namespace TablePlaces

variable {heap : Heap} {tables : TablePlaces} {cache : TableCache} {request : TableRequest}

/-- Whether the places hold the tables of a cache, none of them empty. -/
structure Shows (tables : TablePlaces) (cache : TableCache) : Prop where
  enabled_eq : tables.enabled = cache.enabled
  places_eq : tables.places = cache.entries.map fun entry => (entry.1, some entry.2)
  builds_eq : tables.builds = cache.builds

theorem lookup_map_some (entries : List (TypeKey × BuiltTable)) (type : TypeKey) :
    (entries.map fun entry => (entry.1, some entry.2)).lookup type =
      (entries.lookup type).map some := by
  induction entries with
  | nil => rfl
  | cons entry rest ih =>
    rw [List.map_cons, List.lookup_cons, List.lookup_cons]
    cases type == entry.1 with
    | true => rfl
    | false => exact ih

namespace Shows

/-- A type has a place if it has an entry, and the place is not empty. -/
theorem lookup_eq (h : tables.Shows cache) (type : TypeKey) :
    tables.places.lookup type = (cache.entries.lookup type).map some := by
  rw [h.places_eq, lookup_map_some]

theorem clear (h : tables.Shows cache) : tables.clear.Shows cache.clear :=
  ⟨h.enabled_eq, rfl, h.builds_eq⟩

/-- Where a type has no place, its table is built into a new one behind the others. -/
theorem getOrBuild_reserve (h : tables.Shows cache) (hlive : request.Live heap)
    (hmissing : cache.entries.lookup (request.key heap) = none) :
    (tables.reserve (request.key heap)).getOrBuild heap request =
      (⟨cache.builds, heap.tableFor (request.key heap)⟩,
        { tables with
          places := tables.places ++
            [(request.key heap, some ⟨cache.builds, heap.tableFor (request.key heap)⟩)]
          builds := cache.builds + 1 }) := by
  have hplace : tables.places.lookup (request.key heap) = none := by
    rw [h.lookup_eq, hmissing]
    rfl
  have hreserved : (tables.places ++ [(request.key heap, none)]).lookup (request.key heap) =
      some none := by
    rw [List.lookup_append, hplace, Option.none_or, List.lookup_cons_self]
  have hothers : (tables.places.map fun place =>
      if place.1 = request.key heap then
        (place.1, some ⟨cache.builds, heap.tableFor (request.key heap)⟩)
      else place) = tables.places := by
    refine (List.map_congr_left fun place hmem => ?_).trans (List.map_id _)
    have hne : (request.key heap != place.1) = true :=
      List.lookup_eq_none_iff.1 hplace place hmem
    exact if_neg fun heq => bne_iff_ne.1 hne heq.symm
  unfold reserve getOrBuild
  simp only [hplace, hreserved, build, settle, TableRequest.build_eq hlive, h.builds_eq,
    List.map_append, hothers, List.map_cons, List.map_nil, if_pos]

/-- A request gets the same table and leaves no empty place. -/
theorem find (h : tables.Shows cache) (hlive : request.Live heap) :
    (tables.find heap request).1 = (cache.find heap request).1 ∧
      (tables.find heap request).2.Shows (cache.find heap request).2 := by
  obtain ⟨henabled, hfind⟩ | ⟨built, henabled, hfound, hfind⟩ | ⟨henabled, hmissing, hfind⟩ :=
    TableCache.find_cases hlive cache
  · have hbuild : tables.find heap request = tables.build heap request := by
      unfold TablePlaces.find
      rw [h.enabled_eq, henabled]
      rfl
    rw [hbuild, hfind]
    unfold build
    rw [TableRequest.build_eq hlive, h.builds_eq]
    exact ⟨rfl, h.enabled_eq, h.places_eq, rfl⟩
  · have hplace : tables.places.lookup (request.key heap) = some (some built) := by
      rw [h.lookup_eq, hfound]
      rfl
    have hfast : tables.find heap request = (built, tables) := by
      unfold TablePlaces.find
      simp only [h.enabled_eq, henabled, hplace]
      rfl
    rw [hfast, hfind]
    exact ⟨rfl, h⟩
  · have hplace : tables.places.lookup (request.key heap) = none := by
      rw [h.lookup_eq, hmissing]
      rfl
    have hslow : tables.find heap request =
        (tables.reserve (request.key heap)).getOrBuild heap request := by
      unfold TablePlaces.find
      simp only [h.enabled_eq, henabled, hplace]
      rfl
    rw [hslow, h.getOrBuild_reserve hlive hmissing, hfind]
    refine ⟨rfl, h.enabled_eq, ?_, rfl⟩
    show tables.places ++ [_] = (cache.entries ++ [_]).map _
    rw [List.map_append, ← h.places_eq]
    rfl

theorem after (h : tables.Shows cache) {calls : List (CacheCall TableRequest)}
    (hlive : TableRequest.AllLive heap calls) :
    (tables.after heap calls).Shows (cache.after heap calls) := by
  induction calls generalizing tables cache with
  | nil => exact h
  | cons call rest ih =>
    cases call with
    | request request => exact ih (h.find hlive.head).2 hlive.of_cons
    | clear => exact ih h.clear hlive.of_cons

end Shows

end TablePlaces

/-! ## All calls -/

namespace TableCache

/-- **A table is built once for a type between two clears, and caching changes no answer.**
Every request, for a type or for an object, gets the table that its type has by itself.
Two requests get the same table exactly if tables are kept, the requests mean one type,
and there is no clear between them.  Where tables are kept the cache holds one for each
type requested since the last clear, and has built as many as there were types between
one clear and the next, all counted together; where they are not it holds none and has
built one for every request.  Places that are made first and filled afterwards give and
hold the same. -/
theorem tables_built_once (heap : Heap) (enabled : Bool) (calls : List (CacheCall TableRequest))
    (hlive : TableRequest.AllLive heap calls) :
    let cache := (new enabled).after heap calls
    let history := History.ofCalls calls
    (∀ before first after, calls = before ++ .request first :: after →
      (answer heap enabled before first).table = heap.tableFor (first.key heap) ∧
      (((TablePlaces.new enabled).after heap before).find heap first).1 =
        answer heap enabled before first) ∧
    (∀ before first between second after,
      calls = before ++ .request first :: between ++ .request second :: after →
        ((answer heap enabled before first).serial =
            (answer heap enabled (before ++ .request first :: between) second).serial ↔
          enabled = true ∧ first.key heap = second.key heap ∧ .clear ∉ between)) ∧
    (enabled = true →
      cache.entries.length = (typesOf heap history.recent).card ∧
      cache.builds = (typesOf heap history.recent).card +
        (history.earlier.map fun requests => (typesOf heap requests).card).sum) ∧
    (enabled = false →
      cache.entries.length = 0 ∧ cache.builds = calls.countP CacheCall.isRequest) ∧
    ((TablePlaces.new enabled).after heap calls).Shows cache := by
  have hplaces : (TablePlaces.new enabled).Shows (new enabled) := ⟨rfl, rfl, rfl⟩
  refine ⟨?_, ?_, ?_, ?_, hplaces.after hlive⟩
  · rintro before first after rfl
    obtain ⟨hbefore, hafter⟩ := TableRequest.allLive_append.1 hlive
    exact ⟨table_answer enabled hbefore hafter.head,
      ((hplaces.after hbefore).find hafter.head).1⟩
  · rintro before first between second after rfl
    obtain ⟨hfront, hback⟩ := TableRequest.allLive_append.1 hlive
    obtain ⟨hbefore, hbetween⟩ := TableRequest.allLive_append.1 hfront
    exact serial_eq_iff enabled hbefore hbetween.head hbetween.of_cons hback.head
  · rintro rfl
    have hholds : Holds heap (History.ofCalls calls) ((new true).after heap calls) :=
      (Holds.new heap).after hlive
    exact ⟨hholds.length_eq, hholds.builds_eq⟩
  · rintro rfl
    have hspends := Spends.new.after hlive
    exact ⟨by rw [hspends.entries]; rfl, by rw [hspends.builds, Nat.zero_add]⟩

/-- A heap with one dog. -/
def yard : Heap := ⟨fun key => .empty key.shortName, [⟨⟨0, "Dog"⟩, []⟩]⟩

/-- The dog's table is built again after a clear, and once more only for the cat. -/
theorem tables_built_once_yard :
    let dog := TableRequest.ofType ⟨0, "Dog"⟩
    let cat := TableRequest.ofType ⟨1, "Cat"⟩
    let calls := [.request dog, .clear, .request (.ofObject ⟨0⟩), .request cat, .request dog]
    TableRequest.AllLive yard calls ∧
    (answer yard true [] dog).serial ≠
      (answer yard true [.request dog, .clear] (.ofObject ⟨0⟩)).serial ∧
    (answer yard true [.request dog, .clear] (.ofObject ⟨0⟩)).serial =
      (answer yard true [.request dog, .clear, .request (.ofObject ⟨0⟩), .request cat]
        dog).serial ∧
    ((new true).after yard calls).entries.length = 2 ∧
    ((new true).after yard calls).builds = 3 := by
  intro dog cat calls
  have hlive : TableRequest.AllLive yard calls := by
    intro request hrequest
    simp only [calls, List.mem_cons, CacheCall.request.injEq, reduceCtorEq, List.not_mem_nil,
      or_false, false_or] at hrequest
    rcases hrequest with rfl | rfl | rfl | rfl
    · trivial
    · exact Nat.zero_lt_one
    · trivial
    · trivial
  obtain ⟨-, hshared, hkept, -⟩ := tables_built_once yard true calls hlive
  obtain ⟨hentries, hbuilds⟩ := hkept rfl
  refine ⟨hlive, ?_, ?_, ?_, ?_⟩
  · intro hserial
    have hclear := ((hshared [] dog [.clear] (.ofObject ⟨0⟩) _ rfl).1 hserial).2.2
    exact hclear List.mem_cons_self
  · refine (hshared [.request dog, .clear] (.ofObject ⟨0⟩) [.request cat] dog [] rfl).2
      ⟨rfl, rfl, ?_⟩
    simp
  · rw [hentries]
    decide
  · rw [hbuilds]
    decide

end TableCache

end DynamicSql

import DynamicSql.Expr.RecencyStore
import DynamicSql.Proofs.Classes.Discovery
import Mathlib.Data.Finset.Card
import Mathlib.Data.Finset.Dedup

/-!
# What a cache of statements remembers

A cache answers as the parser does, and it holds the texts that were requested last
among those that parse.  So a text is found in it exactly if it parses and since its
latest request fewer other texts that parse were requested than there is room for.
-/

namespace DynamicSql

/-! ## The latest of distinct texts -/

section Recency

variable {text : String} {texts : List String}

theorem mem_firsts_id : text ∈ firsts id texts ↔ text ∈ texts := by
  constructor
  · exact mem_of_mem_firsts
  · intro h
    obtain ⟨kept, hkept, hsame⟩ := exists_mem_firsts id h
    cases hsame
    exact hkept

theorem nodup_firsts_id (texts : List String) : (firsts id texts).Nodup := pairwise_firsts id texts

/-- There are as many first texts as distinct ones. -/
theorem length_firsts_id (texts : List String) :
    (firsts id texts).length = texts.toFinset.card := by
  rw [← List.toFinset_card_of_nodup (nodup_firsts_id texts)]
  congr 1
  ext text
  simp [mem_firsts_id]

/-- An item is among the first `n` if fewer stand before it. -/
theorem mem_take_append_cons {before after : List String} {n : Nat} (h : text ∉ before) :
    text ∈ (before ++ text :: after).take n ↔ before.length < n := by
  rw [List.take_append, List.mem_append]
  have hbefore : text ∉ before.take n := fun hmem => h (List.mem_of_mem_take hmem)
  cases hroom : n - before.length with
  | zero => simp only [hbefore, List.take_zero, List.not_mem_nil, or_self, false_iff]; omega
  | succ room =>
    simp only [List.take_succ_cons, List.mem_cons_self, or_true, true_iff]
    omega

/-- A text is among the first `n` distinct ones if it occurs behind fewer others. -/
theorem mem_take_firsts_id {n : Nat} : text ∈ (firsts id texts).take n ↔
    text ∈ texts ∧ (texts.takeWhile (· != text)).toFinset.card < n := by
  by_cases hmem : text ∈ texts
  · obtain ⟨before, after, rfl, hbefore⟩ := List.eq_append_cons_of_mem hmem
    have hne : ∀ other ∈ before, other ≠ text := fun other hother heq => hbefore (heq ▸ hother)
    have hwhile : (before ++ text :: after).takeWhile (· != text) = before := by
      rw [List.takeWhile_append_of_pos fun other hother => by simpa using hne other hother,
        List.takeWhile_cons, if_neg (by simp), List.append_nil]
    obtain ⟨rest, hrest⟩ : ∃ rest, firsts id (before ++ text :: after) =
        firsts id before ++ text :: rest := firsts_append_cons hne
    rw [hrest, mem_take_append_cons (fun h => hbefore (mem_firsts_id.1 h)), hwhile,
      length_firsts_id]
    simp [hmem]
  · have hnone : text ∉ (firsts id texts).take n := fun h =>
      hmem (mem_firsts_id.1 (List.mem_of_mem_take h))
    simp [hmem, hnone]

/-- Leaving out a text that does not occur leaves out nothing. -/
theorem filter_ne_of_not_mem (h : text ∉ texts) : texts.filter (· != text) = texts :=
  List.filter_eq_self.2 fun _ hother => bne_iff_ne.2 fun heq => h (heq ▸ hother)

/-- Leaving a text out of the first items, and cutting off what is too much. -/
theorem take_filter_take {n : Nat} (h : texts.Nodup) :
    ((texts.take (n + 1)).filter (· != text)).take n = (texts.filter (· != text)).take n := by
  induction texts generalizing n with
  | nil => rfl
  | cons first rest ih =>
    rw [List.nodup_cons] at h
    cases n with
    | zero => rfl
    | succ n =>
      rw [List.take_succ_cons]
      by_cases hfirst : first = text
      · -- the text stands only here, so nothing else is left out
        have hrest : text ∉ rest := hfirst ▸ h.1
        have htake : text ∉ rest.take (n + 1) := fun hmem => hrest (List.mem_of_mem_take hmem)
        have hskip : ¬ (first != text) = true := by simp [hfirst]
        rw [List.filter_cons, if_neg hskip, List.filter_cons, if_neg hskip,
          filter_ne_of_not_mem hrest, filter_ne_of_not_mem htake, List.take_take, Nat.min_self]
      · have hkeep : (first != text) = true := by simpa using hfirst
        rw [List.filter_cons, if_pos hkeep, List.filter_cons, if_pos hkeep, List.take_succ_cons,
          List.take_succ_cons, ih h.2]

/-- Behind the latest occurrence of a text that is kept stands the same, whether the
others are dropped before or after. -/
theorem takeWhile_filter {keep : String → Bool} (h : keep text = true) :
    (texts.filter keep).takeWhile (· != text) =
      (texts.takeWhile (· != text)).filter keep := by
  induction texts with
  | nil => rfl
  | cons first rest ih =>
    by_cases hfirst : first = text
    · subst hfirst
      simp [h]
    · cases hkeep : keep first with
      | true => simp [hkeep, hfirst, ih]
      | false => simp [hkeep, hfirst, ih]

end Recency

/-! ## One call -/

/-- Whether a text is a statement. -/
def Statement.parses (text : String) : Bool := (Statement.parse text).isOk

theorem Statement.parses_of_parse {text : String} {statement : Statement}
    (h : Statement.parse text = .ok statement) : Statement.parses text = true := by
  rw [Statement.parses, h]
  rfl

theorem Statement.parses_of_parse_error {text : String} {error : ParseError}
    (h : Statement.parse text = .error error) : Statement.parses text = false := by
  rw [Statement.parses, h]
  rfl

namespace ParseCache

variable {cache : ParseCache} {text : String} {capacity : Nat}

/-- What a request does: it finds the text, or parses and stores it, or fails to parse. -/
theorem request_cases (cache : ParseCache) (text : String) :
    (∃ found, Entries.get? cache.entries text = some found ∧
      cache.request text = (.ok found,
        { cache with
          entries := (text, found) :: cache.entries.filter fun entry => entry.1 != text
          hits := cache.hits + 1 })) ∨
    (∃ statement, Entries.get? cache.entries text = none ∧
      Statement.parse text = .ok statement ∧
      cache.request text = (.ok ⟨cache.parsed, statement⟩,
        { cache with
          entries := ((text, ⟨cache.parsed, statement⟩) :: cache.entries).take cache.capacity
          misses := cache.misses + 1
          parsed := cache.parsed + 1 })) ∨
    ∃ error, Entries.get? cache.entries text = none ∧
      Statement.parse text = .error error ∧
      cache.request text = (.error error, { cache with misses := cache.misses + 1 }) := by
  unfold request
  cases Entries.get? cache.entries text with
  | some found => exact .inl ⟨found, rfl, rfl⟩
  | none =>
    cases Statement.parse text with
    | ok statement => exact .inr (.inl ⟨statement, rfl, rfl, rfl⟩)
    | error error => exact .inr (.inr ⟨error, rfl, rfl, rfl⟩)

/-- The texts that parse, without repetition, the one requested last in front. -/
def recency (texts : List String) : List String := firsts id (texts.filter Statement.parses)

theorem recency_cons (h : Statement.parses text = true) (texts : List String) :
    recency (text :: texts) = text :: (recency texts).filter (· != text) := by
  unfold recency
  rw [List.filter_cons_of_pos h]
  rfl

theorem recency_cons_of_not_parses (h : Statement.parses text = false) (texts : List String) :
    recency (text :: texts) = recency texts := by
  unfold recency
  rw [List.filter_cons_of_neg (by simp [h])]

/-- Whether a cache is as the calls so far leave it: it has room for at least one text,
it holds what was requested last, with the right statements, and has counted all
requests since it was cleared. -/
structure Remembers (capacity : Nat) (history : History String) (cache : ParseCache) : Prop where
  capacity_eq : cache.capacity = max 1 capacity
  keys_eq : Entries.keys cache.entries = (recency history.recent).take cache.capacity
  parsed : ∀ entry ∈ cache.entries, Statement.parse entry.1 = .ok entry.2.statement
  counted : cache.hits + cache.misses = history.recent.length

namespace Remembers

variable {history : History String}

theorem new (capacity : Nat) : Remembers capacity .empty (.new capacity) where
  capacity_eq := rfl
  keys_eq := by simp [ParseCache.new, History.empty, recency, firsts, Entries.keys]
  parsed := by simp [ParseCache.new]
  counted := rfl

theorem clear (h : Remembers capacity history cache) :
    Remembers capacity (history.note .clear) cache.clear where
  capacity_eq := h.capacity_eq
  keys_eq := by simp [ParseCache.clear, History.note, recency, firsts, Entries.keys]
  parsed := by simp [ParseCache.clear]
  counted := rfl

theorem size_le (h : Remembers capacity history cache) : cache.size ≤ max 1 capacity := by
  have hlength : cache.size = (Entries.keys cache.entries).length := by
    unfold size Entries.keys
    rw [List.length_map]
  rw [hlength, h.keys_eq, List.length_take, ← h.capacity_eq]
  exact Nat.min_le_left _ _

/-- A text is found exactly if it parses and was requested lately enough. -/
theorem found_iff (h : Remembers capacity history cache) :
    (Entries.get? cache.entries text).isSome = true ↔
      Statement.parses text = true ∧ text ∈ history.recent ∧
        ((history.recent.takeWhile (· != text)).filter Statement.parses).toFinset.card <
          max 1 capacity := by
  rw [← Entries.mem_keys_iff, h.keys_eq, recency, mem_take_firsts_id, List.mem_filter,
    h.capacity_eq]
  constructor
  · rintro ⟨⟨hmem, hparses⟩, hroom⟩
    rw [takeWhile_filter hparses] at hroom
    exact ⟨hparses, hmem, hroom⟩
  · rintro ⟨hparses, hmem, hroom⟩
    rw [← takeWhile_filter hparses] at hroom
    exact ⟨⟨hmem, hparses⟩, hroom⟩

/-- The keys behind a request that finds its text or stores it. -/
theorem keys_requested (h : Remembers capacity history cache)
    (hparses : Statement.parses text = true) :
    (text :: (Entries.keys cache.entries).filter (· != text)).take cache.capacity =
      (recency (text :: history.recent)).take cache.capacity := by
  obtain ⟨room, hroom⟩ : ∃ room, cache.capacity = room + 1 :=
    ⟨cache.capacity - 1, by have := h.capacity_eq; omega⟩
  have hnodup : (recency history.recent).Nodup := nodup_firsts_id _
  rw [h.keys_eq, recency_cons hparses, hroom, List.take_succ_cons, List.take_succ_cons,
    take_filter_take hnodup]

/-- One entry is taken out before it is put in front, so nothing has to go. -/
theorem keys_found (h : Remembers capacity history cache)
    (hmem : text ∈ Entries.keys cache.entries) :
    (text :: (Entries.keys cache.entries).filter (· != text)).take cache.capacity =
      text :: (Entries.keys cache.entries).filter (· != text) := by
  have hkeys : (Entries.keys cache.entries).length ≤ cache.capacity := by
    rw [h.keys_eq]
    exact List.length_take_le _ _
  have hfewer : ((Entries.keys cache.entries).filter (· != text)).length <
      (Entries.keys cache.entries).length :=
    List.length_filter_lt_length_iff_exists.2 ⟨text, hmem, by simp⟩
  apply List.take_of_length_le
  rw [List.length_cons]
  omega

/-- A text that is found goes to the front. -/
theorem find (h : Remembers capacity history cache) {found : ParsedStatement}
    (hget : Entries.get? cache.entries text = some found) :
    Remembers capacity (history.note (.request text))
      { cache with
        entries := (text, found) :: cache.entries.filter fun entry => entry.1 != text
        hits := cache.hits + 1 } := by
  have hmem : (text, found) ∈ cache.entries := Entries.mem_of_get? hget
  have hparses : Statement.parses text = true := Statement.parses_of_parse (h.parsed _ hmem)
  refine ⟨h.capacity_eq, ?_, ?_, ?_⟩
  · show text :: Entries.keys (cache.entries.filter fun entry => entry.1 != text) = _
    rw [Entries.keys_filter_ne, ← h.keys_found (List.mem_map_of_mem hmem),
      h.keys_requested hparses]
    rfl
  · intro entry hentry
    rcases List.mem_cons.1 hentry with rfl | hentry
    · exact h.parsed _ hmem
    · exact h.parsed entry (List.mem_of_mem_filter hentry)
  · have hcounted := h.counted
    show cache.hits + 1 + cache.misses = history.recent.length + 1
    omega

/-- A text that is new and parses is stored in front. -/
theorem store (h : Remembers capacity history cache) {statement : Statement}
    (hget : Entries.get? cache.entries text = none) (hparse : Statement.parse text = .ok statement) :
    Remembers capacity (history.note (.request text))
      { cache with
        entries := ((text, ⟨cache.parsed, statement⟩) :: cache.entries).take cache.capacity
        misses := cache.misses + 1
        parsed := cache.parsed + 1 } := by
  have hnew : text ∉ Entries.keys cache.entries := by
    rw [Entries.mem_keys_iff, hget]
    simp
  have hrequested := h.keys_requested (Statement.parses_of_parse hparse)
  rw [filter_ne_of_not_mem hnew] at hrequested
  refine ⟨h.capacity_eq, ?_, ?_, ?_⟩
  · show Entries.keys (((text, _) :: cache.entries).take cache.capacity) = _
    rw [Entries.keys, List.map_take, List.map_cons]
    exact hrequested
  · intro entry hentry
    rcases List.mem_cons.1 (List.mem_of_mem_take hentry) with rfl | hentry
    · exact hparse
    · exact h.parsed entry hentry
  · have hcounted := h.counted
    show cache.hits + (cache.misses + 1) = history.recent.length + 1
    omega

/-- A text that does not parse is counted and forgotten. -/
theorem miss (h : Remembers capacity history cache) (hparses : Statement.parses text = false) :
    Remembers capacity (history.note (.request text))
      { cache with misses := cache.misses + 1 } := by
  refine ⟨h.capacity_eq, ?_, h.parsed, ?_⟩
  · show Entries.keys cache.entries = (recency (text :: history.recent)).take cache.capacity
    rw [recency_cons_of_not_parses hparses, h.keys_eq]
  · have hcounted := h.counted
    show cache.hits + (cache.misses + 1) = history.recent.length + 1
    omega

/-- **A request keeps what the cache remembers.** -/
theorem request (h : Remembers capacity history cache) (text : String) :
    Remembers capacity (history.note (.request text)) (cache.request text).2 := by
  obtain ⟨found, hget, hrequest⟩ | ⟨statement, hget, hparse, hrequest⟩ |
    ⟨error, -, hparse, hrequest⟩ := request_cases cache text
  · rw [hrequest]
    exact h.find hget
  · rw [hrequest]
    exact h.store hget hparse
  · rw [hrequest]
    exact h.miss (Statement.parses_of_parse_error hparse)

theorem perform (h : Remembers capacity history cache) (call : CacheCall String) :
    Remembers capacity (history.note call) (cache.perform call) := by
  cases call with
  | request text => exact h.request text
  | clear => exact h.clear

/-- **A cache remembers through all calls.** -/
theorem after (h : Remembers capacity history cache) (calls : List (CacheCall String)) :
    Remembers capacity (calls.foldl History.note history) (cache.after calls) := by
  induction calls generalizing history cache with
  | nil => exact h
  | cons call rest ih => exact ih (h.perform call)

end Remembers

/-- A request answers as the parser does. -/
theorem request_statement {history : History String} (h : Remembers capacity history cache)
    (text : String) :
    (cache.request text).1.map ParsedStatement.statement = Statement.parse text := by
  obtain ⟨found, hget, hrequest⟩ | ⟨statement, -, hparse, hrequest⟩ |
    ⟨error, -, hparse, hrequest⟩ := request_cases cache text
  · rw [hrequest, h.parsed _ (Entries.mem_of_get? hget)]
    rfl
  · rw [hrequest, hparse]
    rfl
  · rw [hrequest, hparse]
    rfl

/-- So evaluating through a cache is evaluating. -/
theorem evaluate_eq_reference {history : History String} (h : Remembers capacity history cache)
    (heap : Heap) (lookup : Lookup) (text : String) :
    (cache.evaluate heap lookup text).1 = Evaluator.reference heap lookup text := by
  have hstatement := request_statement h text
  unfold evaluate Evaluator.reference
  generalize cache.request text = requested at hstatement ⊢
  obtain ⟨answer, after⟩ := requested
  rw [← hstatement]
  cases answer <;> rfl

/-- A request counts as a hit where the text is found, and as a miss where it is not. -/
theorem request_counts (cache : ParseCache) (text : String) :
    ((cache.request text).2.hits = cache.hits + 1 ↔
      (Entries.get? cache.entries text).isSome = true) ∧
    ((cache.request text).2.misses = cache.misses + 1 ↔
      ¬ (Entries.get? cache.entries text).isSome = true) := by
  obtain ⟨found, hget, hrequest⟩ | ⟨statement, hget, -, hrequest⟩ | ⟨error, hget, -, hrequest⟩ :=
    request_cases cache text
  · rw [hrequest, hget]
    simp
  · rw [hrequest, hget]
    simp
  · rw [hrequest, hget]
    simp

end ParseCache

/-! ## Stores -/

namespace StoredStatements

variable {store : RecencyStore ParsedStatement} {stored : StoredStatements store}
  {cache : ParseCache} {capacity : Nat}

/-- Whether a cache over a store is one with its entries in a list, as far as can be seen. -/
structure Shows (stored : StoredStatements store) (cache : ParseCache) : Prop where
  capacity_eq : store.capacity stored.state = cache.capacity
  entries_eq : store.entries stored.state = cache.entries
  hits_eq : stored.hits = cache.hits
  misses_eq : stored.misses = cache.misses
  parsed_eq : stored.parsed = cache.parsed

namespace Shows

theorem new (capacity : Nat) : Shows (.new store capacity) (.new capacity) where
  capacity_eq := by
    have hroom : (if capacity = 0 then 1 else capacity) = max 1 capacity := by
      split <;> omega
    exact (store.capacity_new _).trans hroom
  entries_eq := store.entries_new _
  hits_eq := rfl
  misses_eq := rfl
  parsed_eq := rfl

theorem clear (h : stored.Shows cache) : stored.clear.Shows cache.clear where
  capacity_eq := (store.capacity_clear _).trans h.capacity_eq
  entries_eq := store.entries_clear _
  hits_eq := rfl
  misses_eq := rfl
  parsed_eq := h.parsed_eq

/-- A request has the same answer from both and leaves them the same. -/
theorem request (h : stored.Shows cache) (text : String) :
    (stored.request text).1 = (cache.request text).1 ∧
      (stored.request text).2.Shows (cache.request text).2 := by
  have hvalue := store.get_eq stored.state text
  have hpromoted := store.entries_get stored.state text
  have hroom := store.capacity_get stored.state text
  unfold StoredStatements.request
  -- the store is asked once; what it answers and what is left of it go by other names
  generalize store.get stored.state text = got at hvalue hpromoted hroom ⊢
  obtain ⟨value, state⟩ := got
  simp only at hvalue hpromoted hroom
  rw [h.entries_eq] at hvalue hpromoted
  rw [h.capacity_eq] at hroom
  obtain ⟨found, hget, hrequest⟩ | ⟨statement, hget, hparse, hrequest⟩ |
    ⟨error, hget, hparse, hrequest⟩ := ParseCache.request_cases cache text
  · rw [hget] at hvalue
    subst hvalue
    rw [Entries.promote, hget] at hpromoted
    rw [hrequest]
    exact ⟨rfl, hroom, hpromoted, congrArg (· + 1) h.hits_eq, h.misses_eq, h.parsed_eq⟩
  · rw [hget] at hvalue
    subst hvalue
    rw [Entries.promote, hget] at hpromoted
    rw [hrequest]
    simp only [hparse]
    refine ⟨by rw [h.parsed_eq], ?_, ?_, h.hits_eq, congrArg (· + 1) h.misses_eq,
      congrArg (· + 1) h.parsed_eq⟩
    · exact (store.capacity_put _ _ _).trans hroom
    · show store.entries (store.put state text ⟨stored.parsed, statement⟩) = _
      rw [store.entries_put, hpromoted, hroom, Entries.filter_ne_of_get?_eq_none hget,
        h.parsed_eq]
  · rw [hget] at hvalue
    subst hvalue
    rw [Entries.promote, hget] at hpromoted
    rw [hrequest]
    simp only [hparse]
    exact ⟨trivial, hroom, hpromoted, h.hits_eq, congrArg (· + 1) h.misses_eq, h.parsed_eq⟩

theorem perform (h : stored.Shows cache) (call : CacheCall String) :
    (stored.perform call).Shows (cache.perform call) := by
  cases call with
  | request text => exact (h.request text).2
  | clear => exact h.clear

theorem after (h : stored.Shows cache) (calls : List (CacheCall String)) :
    (stored.after calls).Shows (cache.after calls) := by
  induction calls generalizing stored cache with
  | nil => exact h
  | cons call rest ih => exact ih (h.perform call)

end Shows

end StoredStatements

/-! ## All calls -/

/-- **A cache of statements is transparent, bounded and counts right.**  After any calls
a request gets what parsing gives, and so an evaluation gives the same with and without
the cache; it holds no more texts than it has room for, each with its statement; its
counters add up to the requests since it was cleared; and a request is a hit exactly if its
text parses, was requested since then, and fewer other texts that parse were requested
after it than there is room for.  All of this shows in the same way over every store that
forgets what was used least recently. -/
theorem ParseCache.request_transparent (capacity : Nat) (calls : List (CacheCall String))
    (text : String) (store : RecencyStore ParsedStatement) :
    let cache := (ParseCache.new capacity).after calls
    let recent := (History.ofCalls calls).recent
    let remembered := Statement.parses text = true ∧ text ∈ recent ∧
      ((recent.takeWhile (· != text)).filter Statement.parses).toFinset.card < max 1 capacity
    let stored := (StoredStatements.new store capacity).after calls
    (cache.request text).1.map ParsedStatement.statement = Statement.parse text ∧
    (∀ heap lookup, (cache.evaluate heap lookup text).1 =
      Evaluator.reference heap lookup text) ∧
    cache.size ≤ max 1 capacity ∧
    (∀ entry ∈ cache.entries, Statement.parse entry.1 = .ok entry.2.statement) ∧
    cache.hits + cache.misses = recent.length ∧
    ((cache.request text).2.hits = cache.hits + 1 ↔ remembered) ∧
    ((cache.request text).2.misses = cache.misses + 1 ↔ ¬ remembered) ∧
    stored.Shows cache ∧ store.size stored.state = cache.size ∧
    (stored.request text).1 = (cache.request text).1 ∧
    (stored.request text).2.Shows (cache.request text).2 := by
  intro cache recent remembered stored
  have hcache : ParseCache.Remembers capacity (History.ofCalls calls) cache :=
    (ParseCache.Remembers.new capacity).after calls
  have hstored : stored.Shows cache := (StoredStatements.Shows.new capacity).after calls
  have hsize : store.size stored.state = cache.size := by
    rw [store.size_eq, hstored.entries_eq]
    rfl
  obtain ⟨hhits, hmisses⟩ := cache.request_counts text
  rw [hcache.found_iff] at hhits hmisses
  obtain ⟨hanswer, hafter⟩ := hstored.request text
  exact ⟨ParseCache.request_statement hcache text,
    fun heap lookup => ParseCache.evaluate_eq_reference hcache heap lookup text,
    hcache.size_le, hcache.parsed, hcache.counted, hhits, hmisses, hstored, hsize, hanswer,
    hafter⟩

-- A text that does not parse takes no room; another statement may.
example : ((ParseCache.new 1).after [.request "a", .request "1 +", .request "a"]).hits = 1 ∧
    ((ParseCache.new 1).after [.request "a", .request "b", .request "a"]).hits = 0 := by
  decide +kernel

end DynamicSql

import DynamicSql.Expr.ParseCache
import DynamicSql.History

/-!
# Stores that forget what was used least recently

A store has room for a number of entries.  Reading or storing an entry makes it the
one used most recently; where there is no room for a new one, the one used least
recently goes.  Whatever store of this kind keeps the parsed statements, a text is
looked for in it first, and parsed and stored only where it is not found.
-/

namespace DynamicSql

/-- Entries with that of a name, if there is one, in front. -/
def Entries.promote {α : Type} (entries : Entries α) (name : String) : Entries α :=
  match entries.get? name with
  | some value => (name, value) :: entries.filter fun entry => entry.1 != name
  | none => entries

/-- A store of at most `capacity` entries. -/
structure RecencyStore (α : Type) where
  State : Type
  new : (capacity : Nat) → State
  get : State → String → Option α × State
  put : State → String → α → State
  clear : State → State
  size : State → Nat
  capacity : State → Nat
  /-- The entries in the order of their last use, the latest first. -/
  entries : State → Entries α
  size_eq : ∀ state, size state = (entries state).length
  entries_new : ∀ room, entries (new room) = []
  entries_get : ∀ state name, entries (get state name).2 = (entries state).promote name
  entries_put : ∀ state name value, entries (put state name value) =
    ((name, value) :: (entries state).filter fun entry => entry.1 != name).take (capacity state)
  entries_clear : ∀ state, entries (clear state) = []
  get_eq : ∀ state name, (get state name).1 = (entries state).get? name
  capacity_new : ∀ room, capacity (new room) = room
  capacity_get : ∀ state name, capacity (get state name).2 = capacity state
  capacity_put : ∀ state name value, capacity (put state name value) = capacity state
  capacity_clear : ∀ state, capacity (clear state) = capacity state

/-- A list of entries with its room. -/
def RecencyStore.list (α : Type) : RecencyStore α where
  State := Nat × Entries α
  new room := (room, [])
  get state name := (state.2.get? name, (state.1, state.2.promote name))
  put state name value :=
    (state.1, ((name, value) :: state.2.filter fun entry => entry.1 != name).take state.1)
  clear state := (state.1, [])
  size state := state.2.length
  capacity state := state.1
  entries state := state.2
  size_eq _ := rfl
  entries_new _ := rfl
  entries_get _ _ := rfl
  entries_put _ _ _ := rfl
  entries_clear _ := rfl
  get_eq _ _ := rfl
  capacity_new _ := rfl
  capacity_get _ _ := rfl
  capacity_put _ _ _ := rfl
  capacity_clear _ := rfl

instance (α : Type) : Inhabited (RecencyStore α) := ⟨.list α⟩

/-- A cache of parsed statements over a store. -/
structure StoredStatements (store : RecencyStore ParsedStatement) where
  state : store.State
  hits : Nat
  misses : Nat
  /-- The number of statements parsed so far. -/
  parsed : Nat

namespace StoredStatements

variable {store : RecencyStore ParsedStatement}

/-- A cache that holds nothing yet; it has room for at least one statement. -/
def new (store : RecencyStore ParsedStatement) (capacity : Nat) : StoredStatements store :=
  ⟨store.new (if capacity = 0 then 1 else capacity), 0, 0, 0⟩

/-- The statement of a text: look for it, and parse and store it if it is not there. -/
def request (cache : StoredStatements store) (text : String) :
    Except ParseError ParsedStatement × StoredStatements store :=
  match store.get cache.state text with
  | (some found, state) => (.ok found, { cache with state := state, hits := cache.hits + 1 })
  | (none, state) =>
    let missed := { cache with state := state, misses := cache.misses + 1 }
    match Statement.parse text with
    | .error error => (.error error, missed)
    | .ok statement =>
      let found := ⟨cache.parsed, statement⟩
      (.ok found,
        { missed with state := store.put state text found, parsed := cache.parsed + 1 })

/-- Forget all statements and restart the counters. -/
def clear (cache : StoredStatements store) : StoredStatements store :=
  { cache with state := store.clear cache.state, hits := 0, misses := 0 }

/-- The cache after a call. -/
def perform (cache : StoredStatements store) : CacheCall String → StoredStatements store
  | .request text => (cache.request text).2
  | .clear => cache.clear

/-- The cache after calls. -/
def after (cache : StoredStatements store) (calls : List (CacheCall String)) :
    StoredStatements store :=
  calls.foldl perform cache

end StoredStatements

namespace ParseCache

/-- The cache after a call. -/
def perform (cache : ParseCache) : CacheCall String → ParseCache
  | .request text => (cache.request text).2
  | .clear => cache.clear

/-- The cache after calls. -/
def after (cache : ParseCache) (calls : List (CacheCall String)) : ParseCache :=
  calls.foldl perform cache

end ParseCache

end DynamicSql

import DynamicSql.Property.Table

/-!
# Cache of property tables

With the cache enabled a type's table is built at its first request and handed
out again until the cache is cleared; otherwise every request builds a table.
Each build has a serial number, so two tables handed out are the same one exactly
when their serials agree.
-/

namespace DynamicSql

/-- A property table with the serial number of its build. -/
structure BuiltTable where
  serial : Nat
  table : PropertyTable

/-- The tables built so far. -/
structure TableCache where
  enabled : Bool
  entries : List (TypeKey × BuiltTable)
  /-- The number of tables built so far. -/
  builds : Nat

namespace TableCache

/-- A cache without tables. -/
def new (enabled : Bool) : TableCache := ⟨enabled, [], 0⟩

/-- The table of a type, if it is cached. -/
def get? : List (TypeKey × BuiltTable) → TypeKey → Option BuiltTable
  | [], _ => none
  | (key, built) :: rest, type => if key = type then some built else get? rest type

/-- The table of a type, and the cache afterwards. -/
def request (cache : TableCache) (describe : TypeKey → ClassDecl) (type : TypeKey) :
    BuiltTable × TableCache :=
  let built : BuiltTable := ⟨cache.builds, .build type (describe type)⟩
  if cache.enabled then
    match get? cache.entries type with
    | some cached => (cached, cache)
    | none =>
      (built,
        { cache with entries := cache.entries ++ [(type, built)], builds := cache.builds + 1 })
  else (built, { cache with builds := cache.builds + 1 })

/-- Request the tables of several types. -/
def requestAll (cache : TableCache) (describe : TypeKey → ClassDecl) (types : List TypeKey) :
    TableCache :=
  types.foldl (fun cache type => (cache.request describe type).2) cache

/-- Drop all tables; the number of builds stays. -/
def clear (cache : TableCache) : TableCache := { cache with entries := [] }

/-- The diagnostic text. -/
def debugText (cache : TableCache) : String :=
  Text.record "ReflectorFactory"
    [("class_cache_enabled", Text.boolText cache.enabled),
      ("stats", Text.record "ReflectorCacheStats"
        [("entries", String.ofList (Text.natText cache.entries.length)),
          ("builds", String.ofList (Text.natText cache.builds))])]

end TableCache

end DynamicSql

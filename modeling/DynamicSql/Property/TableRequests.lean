import DynamicSql.Heap.Basic
import DynamicSql.History
import DynamicSql.Property.TableCache

/-!
# Requests for property tables

A table is requested for a type or for an object.  A cache of tables may also keep a
place for every type that it was asked for, which is empty until the table of the type
has been built: a request looks for a table that is there already, or else takes the
place of the type and builds the table into it.
-/

namespace DynamicSql

/-- What a table is requested for. -/
inductive TableRequest
  | ofType (type : TypeKey)
  | ofObject (id : ObjectId)

namespace TableRequest

variable (heap : Heap)

/-- The type whose table is meant. -/
def key : TableRequest → TypeKey
  | ofType type => type
  | ofObject id => heap.typeOf id

/-- The class that the type or the object describes itself as. -/
def decl : TableRequest → ClassDecl
  | ofType type => heap.describe type
  | ofObject id => heap.classOf id

/-- Whether the object, if it is one, exists. -/
def Live : TableRequest → Prop
  | ofType _ => True
  | ofObject id => id.index < heap.cells.length

/-- Whether all objects of some calls exist. -/
def AllLive (calls : List (CacheCall TableRequest)) : Prop :=
  ∀ request, .request request ∈ calls → request.Live heap

end TableRequest

namespace TableCache

variable (heap : Heap)

/-- The table of a type or an object, and the cache afterwards. -/
def find (cache : TableCache) (request : TableRequest) : BuiltTable × TableCache :=
  cache.request (fun _ => request.decl heap) (request.key heap)

/-- The cache after a call. -/
def perform (cache : TableCache) : CacheCall TableRequest → TableCache
  | .request request => (cache.find heap request).2
  | .clear => cache.clear

/-- The cache after calls. -/
def after (cache : TableCache) (calls : List (CacheCall TableRequest)) : TableCache :=
  calls.foldl (perform heap) cache

/-- What a request behind some calls gets from a cache that was new before them. -/
def answer (enabled : Bool) (calls : List (CacheCall TableRequest)) (request : TableRequest) :
    BuiltTable :=
  (((new enabled).after heap calls).find heap request).1

end TableCache

/-- Tables in the places of their types. -/
structure TablePlaces where
  enabled : Bool
  /-- The places, empty where the table has not been built yet. -/
  places : List (TypeKey × Option BuiltTable)
  /-- The number of tables built so far. -/
  builds : Nat

namespace TablePlaces

variable (heap : Heap)

/-- No places. -/
def new (enabled : Bool) : TablePlaces := ⟨enabled, [], 0⟩

/-- Make a place for a type that has none. -/
def reserve (tables : TablePlaces) (type : TypeKey) : TablePlaces :=
  match tables.places.lookup type with
  | some _ => tables
  | none => { tables with places := tables.places ++ [(type, none)] }

/-- Put a table into the place of its type. -/
def settle (tables : TablePlaces) (type : TypeKey) (built : BuiltTable) : TablePlaces :=
  { tables with
    places := tables.places.map fun place =>
      if place.1 = type then (place.1, some built) else place }

/-- Build a table and count it. -/
def build (tables : TablePlaces) (request : TableRequest) : BuiltTable × TablePlaces :=
  (⟨tables.builds, .build (request.key heap) (request.decl heap)⟩,
    { tables with builds := tables.builds + 1 })

/-- The table in the place of a type, which is built into it if it is not there yet. -/
def getOrBuild (tables : TablePlaces) (request : TableRequest) : BuiltTable × TablePlaces :=
  match tables.places.lookup (request.key heap) with
  | some (some built) => (built, tables)
  | _ =>
    let (built, tables) := tables.build heap request
    (built, tables.settle (request.key heap) built)

/-- The table of a type or an object, and the tables afterwards. -/
def find (tables : TablePlaces) (request : TableRequest) : BuiltTable × TablePlaces :=
  if !tables.enabled then tables.build heap request
  else
    match tables.places.lookup (request.key heap) with
    | some (some built) => (built, tables)
    | _ => (tables.reserve (request.key heap)).getOrBuild heap request

/-- Drop all places; the number of builds stays. -/
def clear (tables : TablePlaces) : TablePlaces := { tables with places := [] }

/-- The tables after a call. -/
def perform (tables : TablePlaces) : CacheCall TableRequest → TablePlaces
  | .request request => (tables.find heap request).2
  | .clear => tables.clear

/-- The tables after calls. -/
def after (tables : TablePlaces) (calls : List (CacheCall TableRequest)) : TablePlaces :=
  calls.foldl (perform heap) tables

end TablePlaces

end DynamicSql

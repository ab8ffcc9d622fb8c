import DynamicSql.Expr.Eval
import DynamicSql.Binary64.Text

/-!
# Cache of parsed statements

The cache keeps the statements of at most `capacity` texts, the most recently
requested first.  A request for a text that is present is a hit and moves it to
the front; any other request is a miss, and if the text parses its statement
takes the front, displacing the last one from a full cache.  Every stored
statement carries the number of the miss that parsed it.
-/

namespace DynamicSql

/-- A statement with the serial number of its parse. -/
structure ParsedStatement where
  serial : Nat
  statement : Statement

/-- Parsed statements by text, the most recently requested first. -/
structure ParseCache where
  capacity : Nat
  entries : List (String × ParsedStatement)
  hits : Nat
  misses : Nat
  /-- The number of statements parsed so far. -/
  parsed : Nat

namespace ParseCache

/-- An empty cache; it holds at least one statement. -/
def new (capacity : Nat) : ParseCache := ⟨max 1 capacity, [], 0, 0, 0⟩

/-- The statement of a text, from the cache or newly parsed, and the cache
afterwards. -/
def request (cache : ParseCache) (text : String) : Except ParseError ParsedStatement × ParseCache :=
  match Entries.get? cache.entries text with
  | some found =>
    (.ok found,
      { cache with
        entries := (text, found) :: cache.entries.filter fun entry => entry.1 != text
        hits := cache.hits + 1 })
  | none =>
    match Statement.parse text with
    | .ok statement =>
      let found := ⟨cache.parsed, statement⟩
      (.ok found,
        { cache with
          entries := ((text, found) :: cache.entries).take cache.capacity
          misses := cache.misses + 1
          parsed := cache.parsed + 1 })
    | .error error => (.error error, { cache with misses := cache.misses + 1 })

/-- Forget all statements and restart the counters. -/
def clear (cache : ParseCache) : ParseCache :=
  { cache with entries := [], hits := 0, misses := 0 }

/-- The number of statements held. -/
def size (cache : ParseCache) : Nat := cache.entries.length

/-- The share of hits among the requests, in percent. -/
def hitRatio (cache : ParseCache) : Option Binary64 :=
  if cache.hits + cache.misses = 0 then some (.zero false)
  else do
    let hits ← Binary64.ofNat cache.hits
    let total ← Binary64.ofNat (cache.hits + cache.misses)
    (← hits.div total).mul (← Binary64.ofNat 100)

/-- The hit ratio with six places. -/
def hitRatioText (cache : ParseCache) : String :=
  String.ofList (((cache.hitRatio).map (·.fixedText 6)).getD [])

/-- The diagnostic text. -/
def debugText (cache : ParseCache) : String :=
  Text.record "ExpressionCache"
    [("len", String.ofList (Text.natText cache.size)),
      ("capacity", String.ofList (Text.natText cache.capacity))]

/-- Evaluate a text through the cache. -/
def evaluate (cache : ParseCache) (heap : Heap) (lookup : Lookup) (text : String) :
    Evaluated × ParseCache :=
  match cache.request text with
  | (.ok found, cache) => (found.statement.eval heap lookup, cache)
  | (.error error, cache) => (⟨.error (.parse error), []⟩, cache)

end ParseCache

end DynamicSql

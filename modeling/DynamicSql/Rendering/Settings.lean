import DynamicSql.Json.Parser
import DynamicSql.Json.Printer
import DynamicSql.Text.Blank
import DynamicSql.Text.Quoted

/-!
# Settings

The settings of an engine, read from a JSON record: absent members keep their
defaults, other members are ignored, and an array gives the members by position.
-/

namespace DynamicSql

/-- The settings of an engine. -/
structure Settings where
  databaseId : Option String
  classCacheEnabled : Bool
  expressionCacheSize : Nat
  deriving DecidableEq

/-- Why settings cannot be used. -/
inductive SettingsFault
  | malformed
  | emptyCache
  | blankDatabaseId
  | unreadable (file cause : String)
  deriving DecidableEq

/-- The words for a fault. -/
def SettingsFault.message : SettingsFault → String
  | malformed => "JSON error: "
  | emptyCache => "Configuration error: expression_cache_size must be > 0"
  | blankDatabaseId => "Configuration error: database_id must not be blank"
  | unreadable file cause => "Configuration error: Failed to read " ++ file ++ ": " ++ cause

namespace Settings

/-- The settings that hold where nothing else is said. -/
def default : Settings := ⟨none, true, 256⟩

/-- The names of the members. -/
def memberNames : List String := ["database_id", "class_cache_enabled", "expression_cache_size"]

/-- An optional text. -/
def readDatabaseId : Json → Option (Option String)
  | .null => some none
  | .string s => some (some s)
  | _ => none

/-- A truth value. -/
def readFlag : Json → Option Bool
  | .bool b => some b
  | _ => none

/-- A count below `2 ^ 64`. -/
def readCount : Json → Option Nat
  | .number (.integer i) => if 0 ≤ i then some i.toNat else none
  | _ => none

/-- Read a member if it is present. -/
def readOr {α : Type} (default : α) (read : Json → Option α) : Option Json → Option α
  | none => some default
  | some json => read json

/-- Settings from the three members, where present. -/
def ofMembers (databaseId flag size : Option Json) : Option Settings := do
  some
    { databaseId := ← readOr default.databaseId readDatabaseId databaseId
      classCacheEnabled := ← readOr default.classCacheEnabled readFlag flag
      expressionCacheSize := ← readOr default.expressionCacheSize readCount size }

/-- Whether no known member is given twice. -/
def noneRepeated (members : List (String × Json)) : Bool :=
  memberNames.all fun name => (members.filter fun member => member.1 == name).length ≤ 1

/-- Settings from a JSON document. -/
def ofJson : Json → Option Settings
  | .object members =>
    if noneRepeated members then
      ofMembers (Entries.get? members "database_id") (Entries.get? members "class_cache_enabled")
        (Entries.get? members "expression_cache_size")
    else none
  | .array items => if items.length ≤ 3 then ofMembers items[0]? items[1]? items[2]? else none
  | _ => none

/-- Check settings. -/
def validate (settings : Settings) : Except SettingsFault Unit :=
  if settings.expressionCacheSize = 0 then .error .emptyCache
  else if settings.databaseId.any fun id => (Text.trim id.toList).isEmpty then
    .error .blankDatabaseId
  else .ok ()

/-- Read and check settings. -/
def parse (text : String) : Except SettingsFault Settings :=
  match (Json.parseRecord memberNames text).bind ofJson with
  | none => .error .malformed
  | some settings => do
    settings.validate
    .ok settings

/-- The settings as a JSON document. -/
def toJson (settings : Settings) : Json :=
  .object
    [("database_id", (settings.databaseId.map Json.string).getD .null),
      ("class_cache_enabled", .bool settings.classCacheEnabled),
      ("expression_cache_size", .number (.integer settings.expressionCacheSize))]

/-- The diagnostic text. -/
def debugText (settings : Settings) : String :=
  Text.record "EngineConfig"
    [("database_id", Text.optional (settings.databaseId.map Text.quoted)),
      ("class_cache_enabled", Text.boolText settings.classCacheEnabled),
      ("expression_cache_size", String.ofList (Text.natText settings.expressionCacheSize))]

end Settings

end DynamicSql

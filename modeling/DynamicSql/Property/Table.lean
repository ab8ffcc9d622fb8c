import DynamicSql.Property.Resolution

/-!
# Property tables

The properties of a class: for each name at most one way to read it and one way
to write it.  Methods come first; fields fill in the directions that no method
covers.  Of the fields with one name along the superclass chain only the nearest
counts, also where it is read-only.  In a record every method without parameters
reads a property of its own name, and the last such method counts.
-/

namespace DynamicSql

/-- The properties of a class. -/
structure PropertyTable where
  owner : TypeKey
  className : String
  /-- The slots of a new object, if it can be made without arguments. -/
  newSlots : Option (Entries Value)
  readers : Entries Accessor
  writers : Entries Accessor

/-- A field with the types of its layer. -/
structure LayeredField where
  field : FieldDecl
  env : TypeEnv

namespace LayeredField

/-- The field type as seen from the concrete class. -/
def type (found : LayeredField) : DeclaredType := (found.field.type.bind found.env).erased

/-- The read accessor of a field. -/
def reader (found : LayeredField) : Accessor :=
  .field found.field.name found.type (.read found.field.read)

/-- The write accessor of a field; constants and fields without write access
have none. -/
def writer? (found : LayeredField) : Option Accessor :=
  if found.field.isFinal && found.field.isStatic then none
  else found.field.write.map fun body => .field found.field.name found.type (.write body)

end LayeredField

namespace ClassDecl

/-- The nearest field of each name along the superclass chain. -/
def visibleFields (decl : ClassDecl) : List LayeredField :=
  firsts (fun found => found.field.name)
    (decl.fieldLayers.flatMap fun layer => layer.decl.fields.map fun field => ⟨field, layer.env⟩)

/-- The read accessors that methods give. -/
def methodReaders (decl : ClassDecl) : Entries Accessor :=
  let getters := decl.discovered.filter Discovered.isGetter
  (properties getters).filterMap fun property =>
    (resolveGetter property (candidates getters property)).map (property, ·)

/-- The write accessors that methods give. -/
def methodWriters (decl : ClassDecl) : Entries Accessor :=
  let setters := decl.discovered.filter Discovered.isSetter
  (properties setters).filterMap fun property =>
    (resolveSetter property (decl.methodReaders.get? property) (candidates setters property)).map
      (property, ·)

/-- The read accessors that fields give. -/
def fieldReaders (decl : ClassDecl) : Entries Accessor :=
  decl.visibleFields.filterMap fun found =>
    if PropertyName.isValid found.field.name then some (found.field.name, found.reader) else none

/-- The write accessors that fields give. -/
def fieldWriters (decl : ClassDecl) : Entries Accessor :=
  decl.visibleFields.filterMap fun found =>
    if PropertyName.isValid found.field.name then
      found.writer?.map (found.field.name, ·)
    else none

/-- The read accessors of a record. -/
def componentReaders (decl : ClassDecl) : Entries Accessor :=
  Entries.ofList <| (decl.discovered.filter fun found => found.method.params.isEmpty).map
    fun found => (found.method.name, readerOf found.method.name found)

end ClassDecl

namespace PropertyTable

/-- Fill in entries for names that are absent. -/
def fill (entries more : Entries Accessor) : Entries Accessor :=
  more.foldl (fun entries entry => entries.putNew entry.1 entry.2) entries

/-- The property table of a class. -/
def build (owner : TypeKey) (decl : ClassDecl) : PropertyTable where
  owner := owner
  className := decl.name
  newSlots := decl.newSlots?
  readers :=
    if decl.isRecord then decl.componentReaders else fill decl.methodReaders decl.fieldReaders
  writers := if decl.isRecord then [] else fill decl.methodWriters decl.fieldWriters

variable (table : PropertyTable)

/-- The names that can be read, sorted. -/
def readableNames : List String := (Entries.sorted table.readers).keys

/-- The names that can be written, sorted. -/
def writableNames : List String := (Entries.sorted table.writers).keys

/-- The way to read a property. -/
def reader (property : String) : Except AccessError Accessor :=
  match table.readers.get? property with
  | some accessor => .ok accessor
  | none => .error (.noGetter property table.className)

/-- The way to write a property. -/
def writer (property : String) : Except AccessError Accessor :=
  match table.writers.get? property with
  | some accessor => .ok accessor
  | none => .error (.noSetter property table.className)

/-- The declared type of a readable property. -/
def getterType (property : String) : Except AccessError DeclaredType :=
  (table.reader property).map Accessor.valueType

/-- The declared type of a writable property. -/
def setterType (property : String) : Except AccessError DeclaredType :=
  (table.writer property).map Accessor.valueType

/-- Whether a property can be read. -/
def hasGetter (property : String) : Bool := table.readers.contains property

/-- Whether a property can be written. -/
def hasSetter (property : String) : Bool := table.writers.contains property

/-- Whether an object can be made without arguments. -/
def hasDefaultConstructor : Bool := table.newSlots.isSome

/-- The spelling of a property given in any case.  Of several that differ only in
case the last counts, writable ones after readable ones. -/
def findName? (name : String) : Option String :=
  (table.readableNames ++ table.writableNames).reverse.find? fun candidate =>
    Text.toUppercase candidate == Text.toUppercase name

/-- The diagnostic text. -/
def debugText : String :=
  Text.record "Reflector"
    [("class", Text.quoted table.className),
      ("readable", Text.bracketed (table.readableNames.map Text.quoted)),
      ("writable", Text.bracketed (table.writableNames.map Text.quoted)),
      ("default_constructor", Text.boolText table.hasDefaultConstructor)]

end PropertyTable

end DynamicSql

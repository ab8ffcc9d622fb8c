import DynamicSql.Property.Table

/-!
# Filling a property table

How the table of a class comes about, step by step: for each direction there are two maps,
one with the accessors and one with the types that they read or write, and each step puts
an entry into both.  Getters come first, since a setter is compared with the type that is
found under its property by then.  Two setters that cannot be told apart are entered as a
conflict at once, in whose place a later setter of exactly the getter's type may come.
Fields come last, layer by layer.
-/

namespace DynamicSql

/-- The accessors of one direction, and their types. -/
structure PropertyMaps where
  accessors : Entries Accessor
  types : Entries DeclaredType

namespace PropertyMaps

/-- No entries. -/
def empty : PropertyMaps := ⟨[], []⟩

variable (maps : PropertyMaps)

/-- Enter an accessor and a type. -/
def insert (name : String) (accessor : Accessor) (type : DeclaredType) : PropertyMaps :=
  ⟨maps.accessors.put name accessor, maps.types.put name type⟩

/-- The names with an accessor, sorted. -/
def names : List String := (Entries.sorted maps.accessors).keys

end PropertyMaps

/-- The maps of both directions. -/
structure Metamodel where
  reading : PropertyMaps
  writing : PropertyMaps

namespace Metamodel

/-- No entries. -/
def empty : Metamodel := ⟨.empty, .empty⟩

variable (maps : Metamodel)

/-! ## Methods that read -/

/-- Enter a getter, or its conflict with a rival. -/
def addGetMethod (name : String) (found : Discovered) (rival : Option Discovered) : Metamodel :=
  let type := found.returnType
  let accessor : Accessor :=
    match rival with
    | some rival =>
      .ambiguous type ⟨name, found.className, [found.identity, rival.identity], .getters⟩
    | none => .method name type found.method.body
  { maps with reading := maps.reading.insert name accessor type }

/-- Enter every method without parameters under its own name. -/
def addRecordGetMethods (methods : List Discovered) : Metamodel :=
  (methods.filter fun found => found.method.params.isEmpty).foldl
    (fun maps found => maps.addGetMethod found.method.name found none) maps

/-- Enter the winner among the getters of a property. -/
def resolveGetters (property : String) (getters : List Discovered) : Metamodel :=
  match getters with
  | [] => maps
  | first :: rest =>
    let choice := chooseGetter first rest
    maps.addGetMethod property choice.winner choice.rival

/-- Enter the getters of every property. -/
def addGetMethods (methods : List Discovered) : Metamodel :=
  let getters := methods.filter Discovered.isGetter
  (properties getters).foldl
    (fun maps property => maps.resolveGetters property (candidates getters property)) maps

/-! ## Methods that write -/

/-- Enter a setter. -/
def addSetMethod (name : String) (found : Discovered) : Metamodel :=
  let type := found.paramType
  { maps with writing := maps.writing.insert name (.method name type found.method.body) type }

/-- The better one of two setters.  There is none if they cannot be told apart; then their
conflict is entered, with the type of the first. -/
def pickBetterSetter (current : Option Discovered) (candidate : Discovered) (property : String) :
    Option Discovered × Metamodel :=
  match current with
  | none => (some candidate, maps)
  | some current =>
    let held := current.paramType
    let offered := candidate.paramType
    if held.isAssignableFrom offered then (some candidate, maps)
    else if offered.isAssignableFrom held then (some current, maps)
    else
      let accessor : Accessor := .ambiguous held
        ⟨property, candidate.className, [current.identity, candidate.identity],
          .setters held offered⟩
      (none, { maps with writing := maps.writing.insert property accessor held })

/-- Compare the setters of a property: up to the first of the wanted type, and after a
conflict only with that type.  The one that is left is entered. -/
def resolveSetters (wanted : Option DeclaredType) (property : String) (maps : Metamodel)
    (matched : Option Discovered) (conflict : Bool) : List Discovered → Metamodel
  | [] => matched.elim maps (maps.addSetMethod property)
  | setter :: rest =>
    if wanted == some setter.paramType then maps.addSetMethod property setter
    else if conflict then resolveSetters wanted property maps matched conflict rest
    else
      let (matched, maps) := maps.pickBetterSetter matched setter property
      resolveSetters wanted property maps matched matched.isNone rest

/-- The type that a setter should match: the one entered for reading, unless that is a
conflict. -/
def getterType (property : String) : Option DeclaredType :=
  if (maps.reading.accessors.get? property).any Accessor.isAmbiguous then none
  else maps.reading.types.get? property

/-- Enter the setters of every property. -/
def addSetMethods (methods : List Discovered) : Metamodel :=
  let setters := methods.filter Discovered.isSetter
  (properties setters).foldl
    (fun maps property => resolveSetters (maps.getterType property) property maps none false
      (candidates setters property)) maps

/-! ## Fields -/

/-- Enter a field for writing, if it can be written and has a valid name. -/
def addSetField (found : LayeredField) : Metamodel :=
  match found.field.write with
  | none => maps
  | some body =>
    if PropertyName.isValid found.field.name then
      { maps with
        writing := maps.writing.insert found.field.name
          (.field found.field.name found.type (.write body)) found.type }
    else maps

/-- Enter a field for reading, if it has a valid name. -/
def addGetField (found : LayeredField) : Metamodel :=
  if PropertyName.isValid found.field.name then
    { maps with
      reading := maps.reading.insert found.field.name
        (.field found.field.name found.type (.read found.field.read)) found.type }
  else maps

/-- Enter a field for writing, unless something is entered under its name; constants are
never written. -/
def fillWriting (found : LayeredField) : Metamodel :=
  if !maps.writing.accessors.contains found.field.name &&
      !(found.field.isFinal && found.field.isStatic) then maps.addSetField found
  else maps

/-- Enter a field for reading, unless something is entered under its name. -/
def fillReading (found : LayeredField) : Metamodel :=
  if !maps.reading.accessors.contains found.field.name then maps.addGetField found else maps

/-- Enter a field for the directions that no method covers. -/
def addField (found : LayeredField) : Metamodel := (maps.fillWriting found).fillReading found

/-- Enter fields in order, except those whose name a nearer one has. -/
def addFields (maps : Metamodel) (shadowed : List String) : List LayeredField → Metamodel
  | [] => maps
  | found :: rest =>
    if shadowed.contains found.field.name then addFields maps shadowed rest
    else addFields (maps.addField found) (found.field.name :: shadowed) rest

/-! ## The whole -/

/-- The maps of a class. -/
def build (decl : ClassDecl) : Metamodel :=
  if decl.isRecord then empty.addRecordGetMethods decl.discovered
  else
    ((empty.addGetMethods decl.discovered).addSetMethods decl.discovered).addFields []
      (decl.fieldLayers.flatMap fun layer =>
        layer.decl.fields.map fun field => ⟨field, layer.env⟩)

/-- The names by their form in upper case: readable ones in order, then writable ones, each
in place of an earlier one that differs from it only in case. -/
def spellings : Entries String :=
  (maps.reading.names ++ maps.writing.names).foldl
    (fun spellings name => spellings.put (Text.toUppercase name) name) []

/-- The spelling of a property given in any case. -/
def findName? (name : String) : Option String := maps.spellings.get? (Text.toUppercase name)

end Metamodel

end DynamicSql

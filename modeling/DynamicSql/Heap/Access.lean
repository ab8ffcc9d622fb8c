import DynamicSql.Heap.Text

/-!
# Reading and writing host objects

A read finds the accessor of the property, then checks that the object is of the
accessor's type.  A write finds the accessor, converts the value, then checks the
type, and only then stores: a write that fails leaves the heap as it was.
-/

namespace DynamicSql

/-! ## Conversion -/

namespace Conversion

/-- The name of an accepted kind in an error. -/
def expected : Conversion → String
  | any => "any"
  | boolean => "boolean"
  | long => "long"
  | int => "int"
  | decimal => "decimal"
  | string => "string"
  | object => "object"
  | map => "map"
  | text => "text"
  | optional inner => inner.expected
  | list _ => "list"

/-- The 64-bit integer that equals a value. -/
def toInt64? : Value → Option Int64
  | .integer i => some i
  | .decimal d => d.toInt?.bind int64?
  | _ => none

/-- The 32-bit integer that equals a value. -/
def toInt32? (value : Value) : Option Int64 :=
  match toInt64? value with
  | some i => if int32Least ≤ i.toInt ∧ i.toInt ≤ int32Greatest then some i else none
  | none => none

/-- The scalar and container kinds: the converted value, if there is one. -/
def convert? (textOf : Value → String) : Conversion → Value → Option Value
  | any, value => some value
  | boolean, .boolean b => some (.boolean b)
  | long, value => (toInt64? value).map .integer
  | int, value => (toInt32? value).map .integer
  | decimal, .decimal d => some (.decimal d)
  | decimal, .integer i => some (.decimal (.ofInt64 i))
  | string, .string s => some (.string s)
  | object, .object id => some (.object id)
  | map, .map entries => some (.map entries)
  | text, value => some (.string (textOf value))
  | _, _ => none

/-- Convert every item; the first that does not convert fails. -/
def convertAll (convert : Value → Except AccessError Value) :
    List Value → Except AccessError (List Value)
  | [] => .ok []
  | item :: rest => do
    let item ← convert item
    let rest ← convertAll convert rest
    .ok (item :: rest)

/-- Convert a value, given the kind and the plain text of values. -/
def apply (kindOf textOf : Value → String) : Conversion → Value → Except AccessError Value
  | optional _, .null => .ok .null
  | optional inner, value => inner.apply kindOf textOf value
  | list element, .list items => (convertAll (element.apply kindOf textOf) items).map .list
  | conversion, value =>
    match conversion.convert? textOf value with
    | some converted => .ok converted
    | none => .error (.mismatch conversion.expected (kindOf value))

end Conversion

namespace Heap

variable (heap : Heap)

/-- Convert a value while an object may be locked. -/
def convert (locked : Option ObjectId) (conversion : Conversion) (value : Value) :
    Except AccessError Value :=
  conversion.apply heap.kind (fun value => value.textWith (heap.objectText locked)) value

/-- Check that an object is of the type that an accessor was declared for. -/
def checkReceiver (owner : TypeKey) (id : ObjectId) : Except AccessError Unit :=
  if heap.typeOf id = owner then .ok ()
  else .error (.wrongReceiver owner.fullName "an unrelated receiver")

/-- Read through an accessor of the type `owner`. -/
def readThrough (owner : TypeKey) (accessor : Accessor) (id : ObjectId) :
    Except AccessError Value := do
  let body ← accessor.readBody
  heap.checkReceiver owner id
  match body with
  | .constant value => .ok value
  | .slot name => .ok (heap.slot id name)

/-- Write through an accessor of the type `owner`; the heap afterwards. -/
def writeThrough (owner : TypeKey) (accessor : Accessor) (id : ObjectId) (value : Value) :
    Except AccessError Heap := do
  let body ← accessor.writeBody
  let value ← heap.convert (some id) body.conversion value
  heap.checkReceiver owner id
  .ok (heap.setSlot id body.slot value)

/-- Read a property with the given table. -/
def readWith (table : PropertyTable) (id : ObjectId) (property : String) :
    Except AccessError Value := do
  heap.readThrough table.owner (← table.reader property) id

/-- Write a property with the given table. -/
def writeWith (table : PropertyTable) (id : ObjectId) (property : String) (value : Value) :
    Except AccessError Heap := do
  heap.writeThrough table.owner (← table.writer property) id value

/-- Read a property of an object. -/
def read (id : ObjectId) (property : String) : Except AccessError Value :=
  heap.readWith (heap.table id) id property

/-- Write a property of an object. -/
def write (id : ObjectId) (property : String) (value : Value) : Except AccessError Heap :=
  heap.writeWith (heap.table id) id property value

/-- Make a new object of the table's type. -/
def new (table : PropertyTable) : Except AccessError (ObjectId × Heap) :=
  match table.newSlots with
  | some slots => .ok (heap.alloc table.owner slots)
  | none => .error (.noDefaultConstructor table.className)

end Heap

end DynamicSql

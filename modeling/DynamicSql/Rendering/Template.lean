import DynamicSql.Json.Parser
import DynamicSql.Json.Printer
import DynamicSql.Rendering.Fragment

/-!
# Templates

A template is a list of nodes written in JSON: objects with a `type` and the
members of that type.  Other members are ignored, but a known one may stand only
once.  A node can also be an array of its type and its members in order.  Below
a group the type may be given by its number instead of its name.
-/

namespace DynamicSql

/-- A node of a template. -/
inductive TemplateNode
  | text (sql : String)
  | bind (name value : String)
  | mixed (children : List TemplateNode)

namespace TemplateNode

/-! ## Fragments -/

mutual

/-- The fragment that a node describes. -/
def fragment : TemplateNode → Fragment
  | text sql => .text sql
  | bind name value => .bind name value
  | mixed children => .mixed (fragments children)

/-- The fragments that nodes describe. -/
def fragments : List TemplateNode → List Fragment
  | [] => []
  | node :: rest => fragment node :: fragments rest

end

mutual

/-- The texts of the leaves, in document order. -/
def texts : TemplateNode → List String
  | text sql => [sql]
  | bind _ _ => []
  | mixed children => allTexts children

/-- The texts of several nodes. -/
def allTexts : List TemplateNode → List String
  | [] => []
  | node :: rest => texts node ++ allTexts rest

end

/-- Render the nodes of a template for a parameter. -/
def render (nodes : List TemplateNode) (engine : Engine) (heap : Heap) (parameter : Value) :
    Except RenderError BoundSql :=
  (Fragment.mixed (fragments nodes)).render engine heap parameter

/-! ## Writing -/

mutual

/-- The JSON form of a node. -/
def toJson : TemplateNode → Json
  | text sql => .object [("type", .string "text"), ("text", .string sql)]
  | bind name value =>
    .object [("type", .string "bind"), ("name", .string name), ("value", .string value)]
  | mixed children => .object [("type", .string "mixed"), ("children", .array (allToJson children))]

/-- The JSON forms of nodes. -/
def allToJson : List TemplateNode → List Json
  | [] => []
  | node :: rest => toJson node :: allToJson rest

end

/-- The compact text of a list of nodes. -/
def write (nodes : List TemplateNode) : String := (Json.array (allToJson nodes)).compact

/-! ## Reading -/

/-- The type of a node. -/
inductive Tag
  | text
  | bind
  | mixed
  deriving DecidableEq

/-- Read a type by name or, where that is allowed, by number. -/
def Tag.read (byNumber : Bool) : Json → Option Tag
  | .string s =>
    if s = "text" then some text else if s = "bind" then some bind
    else if s = "mixed" then some mixed else none
  | .number (.integer i) =>
    if !byNumber then none
    else if i = 0 then some text else if i = 1 then some bind
    else if i = 2 then some mixed else none
  | _ => none

/-- The members of a type. -/
def Tag.members : Tag → List String
  | text => ["text"]
  | bind => ["name", "value"]
  | mixed => ["children"]

/-- The members of an object that a name stands for. -/
def named (members : List (String × Json)) (name : String) : List Json :=
  (members.filter fun member => member.1 == name).map Prod.snd

/-- The only member of a name. -/
def only? (members : List (String × Json)) (name : String) : Option Json :=
  match named members name with
  | [json] => some json
  | _ => none

/-- A text member. -/
def readText : Json → Option String
  | .string s => some s
  | _ => none

/-- The type and the members of a node, in order. -/
def parts (byNumber : Bool) : Json → Option (Tag × List Json)
  | .object members => do
    let tag ← Tag.read byNumber (← only? members "type")
    some (tag, ← tag.members.mapM (only? members))
  | .array (first :: rest) => do some (← Tag.read byNumber first, rest)
  | _ => none

/-- Read a node that nests at most `depth` groups. -/
def readTo : (depth : Nat) → (byNumber : Bool) → Json → Option TemplateNode
  | 0, _, _ => none
  | depth + 1, byNumber, json => do
    match ← parts byNumber json with
    | (.text, [body]) => some (.text (← readText body))
    | (.bind, [name, value]) => some (.bind (← readText name) (← readText value))
    | (.mixed, [.array children]) => some (.mixed (← children.mapM (readTo depth true)))
    | _ => none

/-- Read a list of nodes from a document. -/
def ofJson : Json → Option (List TemplateNode)
  | .array items => items.mapM fun item => readTo (item.depth + 1) false item
  | _ => none

/-- Read a list of nodes. -/
def parse (source : String) : Option (List TemplateNode) := (Json.parse source).bind ofJson

end TemplateNode

end DynamicSql

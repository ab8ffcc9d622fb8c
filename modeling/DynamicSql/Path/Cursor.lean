import DynamicSql.Path
import DynamicSql.Text.Slice

/-!
# Going along a path by its text

A cursor stands at the first step of a path and holds the text behind the dot that ends it.
That text is a path too, and the cursor at its first step is the next one.  A step is cut at the
positions of its bytes: its index lies between the first opening bracket and the closing bracket
that ends the step, if there is one, else the end of the step.
-/

namespace DynamicSql.Path

/-- What stands between an opening bracket and the end of a step, or the closing bracket there. -/
def bracketSlice? (head : String) (opening : head.Pos) : Option String :=
  let closing := if head.endsWith ']' then head.utf8ByteSize - 1 else head.utf8ByteSize
  Text.slice? head (opening.offset.byteIdx + 1) closing

/-- Read one step from its text, cut at the positions of bytes; an index that cannot be taken
would be empty. -/
def Step.ofText (head : String) : Step :=
  match head.find? '[' with
  | none => ⟨head, head, none⟩
  | some opening =>
    ⟨head, (head.sliceTo opening).copy, some ((bracketSlice? head opening).getD "")⟩

/-- A step of a path, and the text behind the dot that ends it, if it ends at a dot. -/
structure Cursor extends Step where
  remainder : Option String
  deriving DecidableEq, Repr

namespace Cursor

/-- The cursor at the first step of a path. -/
def ofText (path : String) : Cursor :=
  match Text.splitOnce? path '.' with
  | some (head, rest) => ⟨Step.ofText head, some rest⟩
  | none => ⟨Step.ofText path, none⟩

/-- Whether another step follows. -/
def hasNext (cursor : Cursor) : Bool := cursor.remainder.isSome

/-- The cursor at the next step, if there is one. -/
def next? (cursor : Cursor) : Option Cursor := cursor.remainder.map ofText

/-- The cursor some steps further, if the path has as many. -/
def after? : Nat → Cursor → Option Cursor
  | 0, cursor => some cursor
  | n + 1, cursor => cursor.next?.bind (after? n)

end Cursor

end DynamicSql.Path

/-!
# Property paths

A path such as `orders[0].lines.amount` is a sequence of steps separated by
dots.  A step has a name and, if it holds a bracket, an index: the text after
the first bracket, without the closing bracket that may end the step.  Every
text is a path; malformed brackets only lead to odd names and indexes.
-/

namespace DynamicSql

/-- One step of a path. -/
structure Path.Step where
  /-- The text of the step, brackets included. -/
  text : String
  /-- The part before the first bracket. -/
  name : String
  /-- The part after the first bracket, if there is a bracket. -/
  index : Option String
  deriving DecidableEq, Repr

namespace Path

/-- Drop a closing bracket from the end. -/
def dropClosing (cs : List Char) : List Char :=
  if cs.getLast? = some ']' then cs.dropLast else cs

/-- Read one step from its text. -/
def Step.ofChars (cs : List Char) : Step where
  text := String.ofList cs
  name := String.ofList (cs.takeWhile (· ≠ '['))
  index := match cs.dropWhile (· ≠ '[') with
    | [] => none
    | _ :: rest => some (String.ofList (dropClosing rest))

/-- Cut a text at its dots; the result is never empty. -/
def segments : List Char → List (List Char)
  | [] => [[]]
  | c :: cs =>
    if c = '.' then [] :: segments cs
    else match segments cs with
      | [] => [[c]]
      | segment :: rest => (c :: segment) :: rest

/-- The steps of a path, first to last. -/
def steps (path : String) : List Step := (segments path.toList).map Step.ofChars

/-- The text of a sequence of steps: their texts joined by dots. -/
def text (steps : List Step) : String := ".".intercalate (steps.map Step.text)

/-- The text after the first dot, if there is a dot. -/
def remainder? : List Step → Option String
  | _ :: next :: rest => some (text (next :: rest))
  | _ => none

end Path

end DynamicSql

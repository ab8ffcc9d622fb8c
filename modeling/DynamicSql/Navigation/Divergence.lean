import DynamicSql.Navigation.Read

/-!
# Paths that part

Two paths may share their first steps and then part.  At the step where they part they go
to properties of different names, or through one name to different indexes, and indexes
that are spelled differently may still stand for one position.
-/

namespace DynamicSql.Navigation

/-- Whether two steps part. -/
inductive Part (step other : Path.Step) : Prop
  /-- They go to properties or entries of different names. -/
  | names (hstep : step.name ≠ "") (hother : other.name ≠ "") (hne : step.name ≠ other.name)
  /-- They go to different indexes behind the same name. -/
  | indexes {index otherIndex : String} (hname : step.name = other.name)
    (hindex : step.index = some index) (hother : other.index = some otherIndex)
    (hne : index ≠ otherIndex)
    (hposition : ∀ n, position? index = some n → position? otherIndex ≠ some n)

/-- Whether two sequences of steps agree up to a first step at which they part. -/
inductive Diverge : List Path.Step → List Path.Step → Prop
  | here {step other : Path.Step} {rest others : List Path.Step} (h : Part step other) :
    Diverge (step :: rest) (other :: others)
  | behind {rest others : List Path.Step} (step : Path.Step) (h : Diverge rest others) :
    Diverge (step :: rest) (step :: others)

end DynamicSql.Navigation

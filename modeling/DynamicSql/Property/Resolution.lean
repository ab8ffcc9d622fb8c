import DynamicSql.Classes.Discovery
import DynamicSql.Property.Accessor

/-!
# Choosing between accessors

Several methods may stand for one property.  Among getters the one with the most
specific raw return type wins; two booleans are decided in favour of `is`.  A
setter whose type is exactly the getter's wins at once; otherwise the most
specific parameter type does.  Where neither of two types is more specific, the
property is ambiguous.
-/

namespace DynamicSql

/-! ## Getters -/

/-- The winner of a comparison of getters, and the one it cannot be told from. -/
structure GetterChoice where
  winner : Discovered
  rival : Option Discovered

/-- Compare the winner so far with the remaining getters, up to the first conflict. -/
def chooseGetter (winner : Discovered) : List Discovered → GetterChoice
  | [] => ⟨winner, none⟩
  | candidate :: rest =>
    let held := winner.method.returns.erased
    let offered := candidate.method.returns.erased
    if offered == held then
      if offered != .boolean then ⟨winner, some candidate⟩
      else if ['i', 's'].isPrefixOf candidate.method.name.toList then chooseGetter candidate rest
      else chooseGetter winner rest
    else if offered.isAssignableFrom held then chooseGetter winner rest
    else if held.isAssignableFrom offered then chooseGetter candidate rest
    else ⟨winner, some candidate⟩

/-- The read accessor of a getter. -/
def readerOf (property : String) (found : Discovered) : Accessor :=
  .method property found.returnType found.method.body

/-- The read accessor that a choice leads to. -/
def GetterChoice.accessor (choice : GetterChoice) (property : String) : Accessor :=
  match choice.rival with
  | none => readerOf property choice.winner
  | some rival =>
    .ambiguous choice.winner.returnType
      ⟨property, choice.winner.className, [choice.winner.identity, rival.identity], .getters⟩

/-- The read accessor of a property with the given getters. -/
def resolveGetter (property : String) : List Discovered → Option Accessor
  | [] => none
  | first :: rest => some ((chooseGetter first rest).accessor property)

/-! ## Setters -/

/-- The outcome of comparing setters so far. -/
inductive SetterChoice
  /-- No setter yet. -/
  | undecided
  /-- The best setter so far. -/
  | best (found : Discovered)
  /-- Two setters that cannot be told apart. -/
  | conflict (first second : Discovered)

/-- Take one more setter into account. -/
def SetterChoice.add (choice : SetterChoice) (candidate : Discovered) : SetterChoice :=
  match choice with
  | undecided => best candidate
  | best current =>
    if current.paramType.isAssignableFrom candidate.paramType then best candidate
    else if candidate.paramType.isAssignableFrom current.paramType then best current
    else conflict current candidate
  | conflict first second => conflict first second

/-- Compare setters; one of exactly the type `wanted` ends the comparison. -/
def chooseSetter (wanted : Option DeclaredType) (choice : SetterChoice) :
    List Discovered → SetterChoice
  | [] => choice
  | candidate :: rest =>
    if wanted == some candidate.paramType then .best candidate
    else chooseSetter wanted (choice.add candidate) rest

/-- The write accessor of a setter. -/
def writerOf (property : String) (found : Discovered) : Accessor :=
  .method property found.paramType found.method.body

/-- The write accessor that a choice leads to.  The type of the first candidate
stands for an ambiguous property. -/
def SetterChoice.accessor? (choice : SetterChoice) (property : String) : Option Accessor :=
  match choice with
  | undecided => none
  | best found => some (writerOf property found)
  | conflict first second =>
    some (.ambiguous first.paramType
      ⟨property, second.className, [first.identity, second.identity],
        .setters first.paramType second.paramType⟩)

/-- The type that a setter should match: the getter's, unless that is ambiguous. -/
def wantedType (reader : Option Accessor) : Option DeclaredType :=
  match reader with
  | some accessor => if accessor.isAmbiguous then none else some accessor.valueType
  | none => none

/-- The write accessor of a property with the given setters and read accessor. -/
def resolveSetter (property : String) (reader : Option Accessor) (setters : List Discovered) :
    Option Accessor :=
  (chooseSetter (wantedType reader) .undecided setters).accessor? property

end DynamicSql

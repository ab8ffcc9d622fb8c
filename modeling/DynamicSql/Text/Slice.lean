/-!
# Parts of a text

A part of a text can be taken between two byte positions where both are boundaries of
characters, and a text can be cut in two at the first occurrence of a character.
-/

namespace DynamicSql.Text

/-- The part of a text between two byte positions, if both are boundaries of characters and in
order. -/
def slice? (text : String) (start stop : Nat) : Option String :=
  if h : (String.Pos.Raw.mk start).IsValid text ∧ (String.Pos.Raw.mk stop).IsValid text ∧
      start ≤ stop then
    some (text.slice (text.pos ⟨start⟩ h.1) (text.pos ⟨stop⟩ h.2.1) h.2.2).copy
  else none

/-- The texts before and behind the first occurrence of a character. -/
def splitOnce? (text : String) (c : Char) : Option (String × String) :=
  (text.find? c).bind fun found =>
    if h : found = text.endPos then none
    else some ((text.sliceTo found).copy, (text.sliceFrom (found.next h)).copy)

end DynamicSql.Text

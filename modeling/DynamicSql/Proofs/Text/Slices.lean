import DynamicSql.Text.Slice

/-!
# What parts of a text are

A part that can be taken stands in the text with as many bytes before it as its position says,
and a text that is cut at a character is put together again with that character.
-/

namespace DynamicSql.Text

variable {text before behind part : String} {c : Char} {start stop : Nat}

/-- A position between two parts is given by the bytes of the first one. -/
theorem splits_iff {p : text.Pos} :
    p.Splits before behind ↔ text = before ++ behind ∧ p.offset.byteIdx = before.utf8ByteSize :=
  ⟨fun h => ⟨h.eq_append, congrArg String.Pos.Raw.byteIdx h.offset_eq_rawEndPos⟩,
    fun h => ⟨h.1, String.Pos.Raw.ext h.2⟩⟩

/-- The end of a first part is a boundary of characters. -/
theorem isValid_utf8ByteSize (before behind : String) :
    (String.Pos.Raw.mk before.utf8ByteSize).IsValid (before ++ behind) :=
  String.Pos.Raw.isValid_iff_exists_append.2 ⟨before, behind, rfl, rfl⟩

theorem slice?_append (before part behind : String) :
    slice? (before ++ part ++ behind) before.utf8ByteSize (before ++ part).utf8ByteSize =
      some part := by
  have hstart := isValid_utf8ByteSize before (part ++ behind)
  rw [← String.append_assoc] at hstart
  have hstop := isValid_utf8ByteSize (before ++ part) behind
  have hle : before.utf8ByteSize ≤ (before ++ part).utf8ByteSize := by
    rw [String.utf8ByteSize_append]
    exact Nat.le_add_right _ _
  have hfirst : (String.pos _ _ hstart).Splits before (part ++ behind) :=
    splits_iff.2 ⟨String.append_assoc, rfl⟩
  have hlast : (String.pos _ _ hstop).Splits (before ++ part) behind := splits_iff.2 ⟨rfl, rfl⟩
  obtain ⟨_, hcopy⟩ := String.copy_slice_eq_iff_splits.2 ⟨before, behind, hfirst, hlast⟩
  rw [slice?, dif_pos ⟨hstart, hstop, hle⟩]
  exact congrArg some hcopy

/-- A part that can be taken, and where it stands. -/
theorem slice?_eq_some_iff :
    slice? text start stop = some part ↔ ∃ before behind : String,
      text = before ++ part ++ behind ∧ before.utf8ByteSize = start ∧
        (before ++ part).utf8ByteSize = stop := by
  constructor
  · intro h
    rw [slice?] at h
    split at h
    · rename_i hvalid
      obtain ⟨before, behind, hfirst, hlast⟩ :=
        String.copy_slice_eq_iff_splits.1 ⟨hvalid.2.2, Option.some.inj h⟩
      exact ⟨before, behind, hlast.eq_append, (splits_iff.1 hfirst).2.symm,
        (splits_iff.1 hlast).2.symm⟩
    · cases h
  · rintro ⟨before, behind, rfl, rfl, rfl⟩
    exact slice?_append before part behind

/-- A part can only be taken between boundaries of characters. -/
theorem isValid_of_slice? (h : slice? text start stop = some part) :
    (String.Pos.Raw.mk start).IsValid text ∧ (String.Pos.Raw.mk stop).IsValid text := by
  rw [slice?] at h
  split at h
  · rename_i hvalid
    exact ⟨hvalid.1, hvalid.2.1⟩
  · cases h

/-- A text is cut at the first occurrence of a character. -/
theorem splitOnce?_eq_some_iff :
    splitOnce? text c = some (before, behind) ↔
      text = before ++ String.singleton c ++ behind ∧ c ∉ before.toList := by
  constructor
  · intro h
    obtain ⟨found, hfound, hparts⟩ := Option.bind_eq_some_iff.1 h
    obtain ⟨first, rest, hsplits, hnot⟩ := String.find?_char_eq_some_iff_splits.1 hfound
    rw [dif_neg hsplits.ne_endPos_of_singleton, hsplits.copy_sliceTo_eq,
      hsplits.next.copy_sliceFrom_eq] at hparts
    cases hparts
    exact ⟨hsplits.next.eq_append, hnot⟩
  · rintro ⟨htext, hnot⟩
    rw [String.append_assoc] at htext
    have hsplits := String.Pos.splits_ofEqAppend htext
    have hfound := String.find?_char_eq_some_iff_splits.2 ⟨before, behind, hsplits, hnot⟩
    rw [splitOnce?, hfound, Option.bind_some, dif_neg hsplits.ne_endPos_of_singleton,
      hsplits.copy_sliceTo_eq, hsplits.next.copy_sliceFrom_eq]

theorem find?_eq_none_iff : text.find? c = none ↔ c ∉ text.toList := by
  rw [String.find?_eq_find?_toSlice, Option.map_eq_none_iff, String.Slice.find?_eq_none_iff,
    String.Slice.contains_char_eq, String.copy_toSlice, decide_eq_false_iff_not]

/-- A text without the character is not cut. -/
theorem splitOnce?_eq_none (h : c ∉ text.toList) : splitOnce? text c = none := by
  rw [splitOnce?, find?_eq_none_iff.2 h, Option.bind_none]

end DynamicSql.Text

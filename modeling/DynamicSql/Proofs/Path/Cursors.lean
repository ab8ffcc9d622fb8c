import DynamicSql.Path.Cursor
import DynamicSql.Proofs.Path.Segments
import DynamicSql.Proofs.Text.Slices

/-!
# Cursors go along a path

Read at the positions of its bytes a step is the one that is read character by character, and
the part between its brackets can always be taken (`Step.ofText_eq`, `bracketSlice?_eq`).  The
cursor at the first step of a path therefore comes to all steps of the path in turn, and then to
the end: `steps_lossless`.
-/

namespace DynamicSql.Path

/-! ## Brackets -/

/-- A closing bracket that is dropped is one that was there. -/
theorem dropClosing_append (cs : List Char) :
    dropClosing cs ++ (if cs.getLast? = some ']' then [']'] else []) = cs := by
  rw [dropClosing]
  split
  · rename_i hlast
    obtain ⟨inner, rfl⟩ := List.getLast?_eq_some_iff.1 hlast
    rw [List.dropLast_concat]
  · exact List.append_nil cs

section

variable {head name rest : String} {opening : head.Pos}

/-- Behind an opening bracket a step ends with a closing one if what is there does. -/
theorem endsWith_closing (hsplits : opening.Splits name (String.singleton '[' ++ rest)) :
    head.endsWith ']' = (rest.toList.getLast? == some ']') := by
  rw [String.endsWith_char_eq_getLast?, hsplits.eq_append]
  cases hrest : rest.toList <;> simp [hrest, List.getLast?_cons]

/-- A step with an opening bracket is put together from the parts around it. -/
theorem eq_append_index (hsplits : opening.Splits name (String.singleton '[' ++ rest)) :
    head = name ++ "[" ++ String.ofList (dropClosing rest.toList) ++
      (if head.endsWith ']' then "]" else "") := by
  have hlast : (if head.endsWith ']' then "]" else "") =
      String.ofList (if rest.toList.getLast? = some ']' then [']'] else []) := by
    rw [endsWith_closing hsplits, apply_ite String.ofList]
    simp only [beq_iff_eq]
  rw [hlast, String.append_assoc, ← String.ofList_append, dropClosing_append, String.ofList_toList,
    String.append_assoc]
  exact hsplits.eq_append

/-- What stands behind an opening bracket can always be taken. -/
theorem bracketSlice?_eq (hsplits : opening.Splits name (String.singleton '[' ++ rest)) :
    bracketSlice? head opening = some (String.ofList (dropClosing rest.toList)) := by
  have hopening := (Text.splits_iff.1 hsplits).2
  have hhead := eq_append_index hsplits
  rw [bracketSlice?, Text.slice?_eq_some_iff]
  refine ⟨name ++ "[", if head.endsWith ']' then "]" else "", hhead, ?_, ?_⟩
  · rw [String.utf8ByteSize_append, hopening]
    rfl
  · have hsize := congrArg String.utf8ByteSize hhead
    rw [String.utf8ByteSize_append] at hsize
    split
    · rename_i hends
      rw [if_pos hends] at hsize
      exact (Nat.sub_eq_of_eq_add hsize).symm
    · rename_i hends
      rw [if_neg hends] at hsize
      exact hsize.symm

end

/-! ## Steps -/

/-- A step without an opening bracket is its name. -/
theorem Step.ofText_of_not_mem {head : String} (h : '[' ∉ head.toList) :
    Step.ofText head = ⟨head, head, none⟩ := by
  rw [Step.ofText, Text.find?_eq_none_iff.2 h]

/-- The name of a step ends at the first opening bracket, and its index starts there. -/
theorem Step.ofText_of_splits {head name rest : String} {opening : head.Pos}
    (hfound : head.find? '[' = some opening)
    (hsplits : opening.Splits name (String.singleton '[' ++ rest)) :
    Step.ofText head = ⟨head, name, some (String.ofList (dropClosing rest.toList))⟩ := by
  rw [Step.ofText, hfound]
  simp only [bracketSlice?_eq hsplits, hsplits.copy_sliceTo_eq, Option.getD_some]

theorem Step.text_ofText (head : String) : (Step.ofText head).text = head := by
  rw [Step.ofText]
  split <;> rfl

/-- A step is put together from its name and its index, which can always be taken. -/
theorem Step.ofText_parts (head : String) :
    '[' ∉ (Step.ofText head).name.toList ∧
    ((Step.ofText head).index = none → head = (Step.ofText head).name) ∧
    (∀ index, (Step.ofText head).index = some index → head =
      (Step.ofText head).name ++ "[" ++ index ++ (if head.endsWith ']' then "]" else "")) ∧
    ∀ opening, head.find? '[' = some opening →
      ∃ index, bracketSlice? head opening = some index ∧ (Step.ofText head).index = some index := by
  cases hfound : head.find? '[' with
  | none =>
    have hnot := Text.find?_eq_none_iff.1 hfound
    rw [Step.ofText_of_not_mem hnot]
    exact ⟨hnot, fun _ => rfl, nofun, nofun⟩
  | some opening =>
    obtain ⟨name, rest, hsplits, hname⟩ := String.find?_char_eq_some_iff_splits.1 hfound
    rw [Step.ofText_of_splits hfound hsplits]
    refine ⟨hname, nofun, ?_, ?_⟩
    · rintro index ⟨⟩
      exact eq_append_index hsplits
    · rintro opening ⟨⟩
      exact ⟨_, bracketSlice?_eq hsplits, rfl⟩

/-- Read at the positions of its bytes a step is the same. -/
theorem Step.ofText_eq (head : String) : Step.ofText head = Step.ofChars head.toList := by
  cases hfound : head.find? '[' with
  | none =>
    have hnot := Text.find?_eq_none_iff.1 hfound
    rw [Step.ofText_of_not_mem hnot, Step.ofChars_of_not_mem hnot, String.ofList_toList]
  | some opening =>
    obtain ⟨name, rest, hsplits, hname⟩ := String.find?_char_eq_some_iff_splits.1 hfound
    have hchars : head.toList = name.toList ++ '[' :: rest.toList := by
      rw [hsplits.eq_append, String.toList_append, String.toList_append, String.toList_singleton,
        List.singleton_append]
    rw [Step.ofText_of_splits hfound hsplits, hchars, Step.ofChars_bracket hname, ← hchars,
      String.ofList_toList, String.ofList_toList]

/-! ## Paths -/

section

variable {path before : String}

/-- A path without dots has one step. -/
theorem steps_of_not_mem (h : '.' ∉ path.toList) : steps path = [Step.ofChars path.toList] := by
  rw [steps, segments_of_not_mem h, List.map_singleton]

/-- Behind the first step of a path come the steps of what is behind its dot. -/
theorem steps_append_dot (h : '.' ∉ before.toList) (behind : String) :
    steps (before ++ String.singleton '.' ++ behind) =
      Step.ofChars before.toList :: steps behind := by
  have hchars : (before ++ String.singleton '.' ++ behind).toList =
      before.toList ++ '.' :: behind.toList := by
    rw [String.toList_append, String.toList_append, String.toList_singleton, List.append_assoc,
      List.singleton_append]
  rw [steps, hchars, segments_append_dot h, List.map_cons, steps]

/-- A step of a path is read from a text without dots. -/
theorem exists_of_mem_steps {step : Step} (h : step ∈ steps path) :
    ∃ head : String, '.' ∉ head.toList ∧ step = Step.ofText head := by
  obtain ⟨segment, hsegment, rfl⟩ := List.mem_map.1 h
  refine ⟨String.ofList segment, ?_, ?_⟩
  · rw [String.toList_ofList]
    exact dot_not_mem_segment hsegment
  · rw [Step.ofText_eq, String.toList_ofList]

/-- The texts of the steps put together with dots are the path. -/
theorem text_steps (path : String) : text (steps path) = path := by
  have htexts : ((steps path).map Step.text).map String.toList = segments path.toList := by
    rw [steps, List.map_map, List.map_map]
    exact (List.map_congr_left fun segment _ => String.toList_ofList).trans (List.map_id _)
  rw [text, ← String.toList_inj, String.toList_intercalate, htexts]
  exact intercalate_segments path.toList

theorem remainder?_cons {step : Step} {rest : List Step} (h : rest ≠ []) :
    remainder? (step :: rest) = some (text rest) := by
  obtain ⟨next, more, rfl⟩ := List.exists_cons_of_ne_nil h
  rfl

namespace Cursor

theorem ofText_of_not_mem (h : '.' ∉ path.toList) :
    ofText path = ⟨Step.ofChars path.toList, none⟩ := by
  rw [ofText, Text.splitOnce?_eq_none h, Step.ofText_eq]

theorem ofText_append_dot (h : '.' ∉ before.toList) (behind : String) :
    ofText (before ++ String.singleton '.' ++ behind) =
      ⟨Step.ofChars before.toList, some behind⟩ := by
  rw [ofText, Text.splitOnce?_eq_some_iff.2 ⟨rfl, h⟩, ← Step.ofText_eq]

/-- The cursors at the steps of a path. -/
def along : List Step → List Cursor
  | [] => []
  | step :: rest => ⟨step, remainder? (step :: rest)⟩ :: along rest

theorem map_toStep_along (steps : List Step) : (along steps).map Cursor.toStep = steps := by
  induction steps with
  | nil => rfl
  | cons step rest ih => rw [along, List.map_cons, ih]

/-- Of the cursors at the steps of a path all but the last have another one behind them. -/
theorem hasNext_along {steps : List Step} {n : Nat} {cursor : Cursor}
    (h : (along steps)[n]? = some cursor) : cursor.hasNext = true ↔ n + 1 < steps.length := by
  induction steps generalizing n with
  | nil => cases h
  | cons step rest ih =>
    cases n with
    | zero =>
      cases h
      cases rest with
      | nil => exact ⟨nofun, nofun⟩
      | cons next more => simp [hasNext, remainder?]
    | succ n =>
      rw [ih h]
      exact Nat.succ_lt_succ_iff.symm

/-- **The cursor at the first step comes to the cursors at all steps in turn**, and then to the
end. -/
theorem after?_ofText (path : String) (n : Nat) :
    (ofText path).after? n = (along (steps path))[n]? := by
  -- by induction on the cuts of the path: going on is starting again behind the first dot
  suffices h : ∀ cs n, (ofText (String.ofList cs)).after? n =
      (along (steps (String.ofList cs)))[n]? by
    simpa only [String.ofList_toList] using h path.toList n
  intro cs n
  induction cs using cut_induction generalizing n with
  | plain cs hplain =>
    rw [← String.toList_ofList (l := cs)] at hplain
    rw [ofText_of_not_mem hplain, steps_of_not_mem hplain]
    cases n <;> rfl
  | cut before behind hbefore ih =>
    have hpath : String.ofList (before ++ '.' :: behind) =
        String.ofList before ++ String.singleton '.' ++ String.ofList behind := by
      rw [String.append_assoc, String.singleton_eq_ofList, ← String.ofList_append,
        ← String.ofList_append, List.singleton_append]
    rw [← String.toList_ofList (l := before)] at hbefore
    rw [hpath, ofText_append_dot hbefore, steps_append_dot hbefore, along,
      remainder?_cons (steps_ne_nil _), text_steps]
    cases n with
    | zero => rfl
    | succ n => exact ih n

end Cursor

end

/-! ## The whole -/

/-- **Going along a path loses nothing and ends.**  From the cursor at the first step one comes
to finitely many cursors, one more than there are dots, and these are at the steps of the path.
Their texts, put together with dots, are the path; all but the last have another one behind them;
and each is put together from its name and its index, which can always be taken. -/
theorem steps_lossless (path : String) :
    ∃ cursors : List Cursor,
      (∀ n, (Cursor.ofText path).after? n = cursors[n]?) ∧
      cursors.map Cursor.toStep = steps path ∧
      cursors.length = path.toList.count '.' + 1 ∧
      ".".intercalate (cursors.map fun cursor => cursor.text) = path ∧
      (∀ n cursor, cursors[n]? = some cursor →
        (cursor.hasNext = true ↔ n + 1 < cursors.length)) ∧
      ∀ cursor ∈ cursors,
        '.' ∉ cursor.text.toList ∧ '[' ∉ cursor.name.toList ∧
        (cursor.index = none → cursor.text = cursor.name) ∧
        (∀ index, cursor.index = some index → cursor.text =
          cursor.name ++ "[" ++ index ++ (if cursor.text.endsWith ']' then "]" else "")) ∧
        ∀ opening, cursor.text.find? '[' = some opening →
          ∃ index, bracketSlice? cursor.text opening = some index ∧ cursor.index = some index := by
  have hsteps := Cursor.map_toStep_along (steps path)
  have hlength : (Cursor.along (steps path)).length = (steps path).length := by
    rw [← List.length_map Cursor.toStep, hsteps]
  refine ⟨Cursor.along (steps path), Cursor.after?_ofText path, hsteps, ?_, ?_, ?_, ?_⟩
  · rw [hlength, steps, List.length_map, length_segments]
  · have htexts := text_steps path
    rw [text, ← hsteps, List.map_map] at htexts
    exact htexts
  · intro n cursor h
    rw [hlength]
    exact Cursor.hasNext_along h
  · intro cursor hcursor
    have hstep : cursor.toStep ∈ steps path := hsteps ▸ List.mem_map_of_mem hcursor
    obtain ⟨head, hdot, hhead⟩ := exists_of_mem_steps hstep
    have htext : cursor.text = head := by rw [hhead, Step.text_ofText]
    rw [htext, hhead]
    exact ⟨hdot, Step.ofText_parts head⟩

example : steps "é]x[ü.[]" = [⟨"é]x[ü", "é]x", some "ü"⟩, ⟨"[]", "", some ""⟩] := by rfl

end DynamicSql.Path

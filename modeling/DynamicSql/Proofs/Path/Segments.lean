import DynamicSql.Path
import DynamicSql.Proofs.Text.Characters

/-!
# The segments of a path and their steps

Cutting a text at its dots is splitting a list at a separator, so that the segments hold no dots
and put together with dots are the text again.  What holds of texts without dots, and of a text
if it holds of what is behind its first dot, holds of all texts: `cut_induction`.  A segment is
read as a step by its first opening bracket.
-/

namespace DynamicSql.Path

variable {cs segment before name : List Char} {c : Char}

/-! ## Segments -/

theorem segments_eq_splitOn (cs : List Char) : segments cs = cs.splitOn '.' := by
  induction cs with
  | nil => rfl
  | cons c rest ih =>
    rw [segments, List.splitOn_cons_eq_if_modifyHead, ih]
    simp only [beq_iff_eq]
    split
    · rfl
    · cases hsplit : rest.splitOn '.' with
      | nil => exact absurd hsplit (List.splitOn_ne_nil _ _)
      | cons => rfl

theorem segments_ne_nil (cs : List Char) : segments cs ≠ [] := by
  rw [segments_eq_splitOn]
  exact List.splitOn_ne_nil _ _

theorem segments_append_dot (h : '.' ∉ before) (behind : List Char) :
    segments (before ++ '.' :: behind) = before :: segments behind := by
  simp only [segments_eq_splitOn]
  exact List.splitOn_append_cons_self_of_not_mem h behind

theorem segments_of_not_mem (h : '.' ∉ cs) : segments cs = [cs] := by
  rw [segments_eq_splitOn]
  exact List.splitOn_eq_singleton h

/-- The segments put together with dots are the text. -/
theorem intercalate_segments (cs : List Char) : ['.'].intercalate (segments cs) = cs := by
  rw [segments_eq_splitOn]
  exact List.intercalate_splitOn '.'

/-- A text has no dots, or it is cut at the first one and what is behind it is shorter. -/
theorem cut_induction {motive : List Char → Prop} (plain : ∀ cs, '.' ∉ cs → motive cs)
    (cut : ∀ before behind, '.' ∉ before → motive behind → motive (before ++ '.' :: behind))
    (cs : List Char) : motive cs := by
  by_cases hdot : '.' ∈ cs
  · obtain ⟨before, behind, hcs, hbefore⟩ := List.eq_append_cons_of_mem hdot
    have hshorter : behind.length < cs.length := by
      rw [hcs, List.length_append, List.length_cons]
      omega
    exact hcs ▸ cut before behind hbefore (cut_induction plain cut behind)
  · exact plain cs hdot
termination_by cs.length

/-- There is one segment more than there are dots. -/
theorem length_segments (cs : List Char) : (segments cs).length = cs.count '.' + 1 := by
  induction cs using cut_induction with
  | plain cs h => rw [segments_of_not_mem h, List.count_eq_zero_of_not_mem h, List.length_singleton]
  | cut before behind h ih =>
    rw [segments_append_dot h, List.length_cons, ih, List.count_append, List.count_cons_self,
      List.count_eq_zero_of_not_mem h, Nat.zero_add]

theorem dot_not_mem_segment (h : segment ∈ segments cs) : '.' ∉ segment := by
  induction cs using cut_induction with
  | plain cs hplain =>
    rw [segments_of_not_mem hplain, List.mem_singleton] at h
    exact h ▸ hplain
  | cut before behind hbefore ih =>
    rw [segments_append_dot hbefore, List.mem_cons] at h
    rcases h with rfl | h
    · exact hbefore
    · exact ih h

/-- The segments of a text hold only its characters. -/
theorem mem_of_mem_segments (h : segment ∈ segments cs) (hc : c ∈ segment) : c ∈ cs := by
  induction cs using cut_induction with
  | plain cs hplain =>
    rw [segments_of_not_mem hplain, List.mem_singleton] at h
    exact h ▸ hc
  | cut before behind hbefore ih =>
    rw [segments_append_dot hbefore, List.mem_cons] at h
    rcases h with rfl | h
    · exact List.mem_append_left _ hc
    · exact List.mem_append_right _ (List.mem_cons_of_mem _ (ih h))

/-! ## Steps -/

/-- A step without an opening bracket is its name. -/
theorem Step.ofChars_of_not_mem (h : '[' ∉ cs) :
    Step.ofChars cs = ⟨String.ofList cs, String.ofList cs, none⟩ := by
  have hname : ∀ c ∈ cs, decide (c ≠ '[') = true := fun c hc =>
    decide_eq_true fun heq => h (heq ▸ hc)
  obtain ⟨htake, hdrop⟩ := Text.takeWhile_append_stop hname (rfl : ([] : List Char).head?.all (fun c => !decide (c ≠ '[')) = true)
  rw [List.append_nil] at htake hdrop
  rw [Step.ofChars, htake, hdrop]

/-- The name of a step ends at its first opening bracket, and its index starts there. -/
theorem Step.ofChars_bracket (h : '[' ∉ name) (rest : List Char) :
    Step.ofChars (name ++ '[' :: rest) =
      ⟨String.ofList (name ++ '[' :: rest), String.ofList name,
        some (String.ofList (dropClosing rest))⟩ := by
  have hname : ∀ c ∈ name, decide (c ≠ '[') = true := fun c hc =>
    decide_eq_true fun heq => h (heq ▸ hc)
  have hstop : ('[' :: rest).head?.all (fun c => !decide (c ≠ '[')) = true := rfl
  obtain ⟨htake, hdrop⟩ := Text.takeWhile_append_stop hname hstop
  rw [Step.ofChars, htake, hdrop]

theorem steps_ne_nil (path : String) : steps path ≠ [] := by
  rw [steps, ne_eq, List.map_eq_nil_iff]
  exact segments_ne_nil path.toList

end DynamicSql.Path

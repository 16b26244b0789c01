import Mathlib.Data.List.TakeWhile
import ChangeLint.Text.Blank

/-! # What trimming leaves

Trimming a text takes away the blanks at both ends and nothing else: what is put around a text
can be trimmed away again if it is blank, and characters that are no blanks may be exchanged
before or after. -/

namespace ChangeLint.Text

/-- A text is trimmed away if it is blank. -/
theorem trimmed_eq_nil_iff {cs : List Char} : trimmed cs = [] ↔ cs.all isBlank = true := by
  unfold trimmed dropBlanksEnd dropBlanks
  rw [List.reverse_eq_nil_iff, List.dropWhile_eq_nil_iff, List.all_eq_true]
  constructor
  · intro h c hc
    by_contra hblank
    -- The first character that is no blank would be kept.
    have hne : cs.dropWhile isBlank ≠ [] := by
      rw [Ne, List.dropWhile_eq_nil_iff]
      exact fun hall => hblank (hall c hc)
    have hhead := List.head_dropWhile_not isBlank hne
    have hmem := h _ (List.mem_reverse.mpr (List.head_mem hne))
    rw [hmem] at hhead
    cases hhead
  · intro h c hc
    exact h c ((List.dropWhile_suffix isBlank).subset (List.mem_reverse.mp hc))

/-- Blanks around a text are trimmed away. -/
theorem trimmed_padded {before after : List Char} (hbefore : before.all isBlank = true)
    (hafter : after.all isBlank = true) (cs : List Char) :
    trimmed (before ++ cs ++ after) = trimmed cs := by
  have hstart (rest : List Char) : dropBlanks (before ++ rest) = dropBlanks rest :=
    List.dropWhile_append_of_pos (List.all_eq_true.mp hbefore)
  have hend (front : List Char) : dropBlanksEnd (front ++ after) = dropBlanksEnd front := by
    unfold dropBlanksEnd
    rw [List.reverse_append, List.dropWhile_append_of_pos]
    intro c hc
    exact List.all_eq_true.mp hafter c (List.mem_reverse.mp hc)
  unfold trimmed
  rw [List.append_assoc, hstart]
  -- If all is blank, nothing is left; else the blanks behind are not reached from the front.
  by_cases hcs : cs.all isBlank = true
  · have hall : dropBlanks (cs ++ after) = [] ∧ dropBlanks cs = [] := by
      unfold dropBlanks
      rw [List.dropWhile_eq_nil_iff, List.dropWhile_eq_nil_iff]
      refine ⟨fun c hc => ?_, List.all_eq_true.mp hcs⟩
      rcases List.mem_append.mp hc with hc | hc
      · exact List.all_eq_true.mp hcs c hc
      · exact List.all_eq_true.mp hafter c hc
    rw [hall.1, hall.2]
  · have hne : (cs.dropWhile isBlank).isEmpty = false := by
      rw [List.isEmpty_eq_false_iff, Ne, List.dropWhile_eq_nil_iff]
      exact fun hall => hcs (List.all_eq_true.mpr hall)
    have hkept : dropBlanks (cs ++ after) = dropBlanks cs ++ after := by
      unfold dropBlanks
      rw [List.dropWhile_append, hne]
      rfl
    rw [hkept, hend]

/-- A slash is as little a blank as a backslash is. -/
theorem trimmed_forwardSlashes (cs : List Char) :
    trimmed (forwardSlashes cs) = forwardSlashes (trimmed cs) := by
  -- Exchanging slashes does not change which characters are blank.
  have hblank : isBlank ∘ (fun c => if c = '\\' then '/' else c) = isBlank := by
    funext c
    by_cases hc : c = '\\'
    · subst hc
      rfl
    · simp [hc]
  unfold trimmed dropBlanksEnd dropBlanks forwardSlashes
  rw [List.dropWhile_map, hblank, ← List.map_reverse, List.dropWhile_map, hblank,
    ← List.map_reverse]

end ChangeLint.Text

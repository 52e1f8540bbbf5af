import ConceptModel.Text.Split
import Mathlib.Data.List.Basic

/-!
# Splitting at a separator

No part of a list that is split at a separator holds it, and parts that do not hold it come
off one by one.
-/

namespace ConceptModel.Text

variable {α : Type} [DecidableEq α] {separator : α} {cs rest : List α}

theorem splitAll_of_notMem
    (h : separator ∉ cs) :
  splitAll separator cs = [cs]
  := by
  induction cs with
  | nil => rfl
  | cons c cs ih =>
    obtain ⟨differs, others⟩ := not_or.mp (List.mem_cons.not.mp h)
    rw [splitAll, if_neg (Ne.symm differs), ih others]

theorem splitAll_ne_nil :
  splitAll separator cs ≠ []
  := by
  cases cs with
  | nil => simp [splitAll]
  | cons c cs =>
    rw [splitAll]
    split
    · exact List.cons_ne_nil _ _
    · split <;> exact List.cons_ne_nil _ _

/-- What stands before a separator and what stands after it are split on their own. -/
theorem splitAll_append_separator :
  splitAll separator (cs ++ separator :: rest) = splitAll separator cs ++ splitAll separator rest
  := by
  induction cs with
  | nil => simp [splitAll]
  | cons c cs ih =>
    rw [List.cons_append, splitAll, splitAll, ih]
    split
    · rfl
    · cases parts : splitAll separator cs with
      | nil => exact absurd parts splitAll_ne_nil
      | cons part parts => rfl

theorem splitAll_append_cons
    (h : separator ∉ cs) :
  splitAll separator (cs ++ separator :: rest) = cs :: splitAll separator rest
  := by rw [splitAll_append_separator, splitAll_of_notMem h, List.singleton_append]

/-- No part holds the separator. -/
theorem notMem_of_mem_splitAll
    {part : List α} (h : part ∈ splitAll separator cs) :
  separator ∉ part
  := by
  induction cs generalizing part with
  | nil =>
    obtain rfl := List.mem_singleton.mp h
    exact List.not_mem_nil
  | cons c cs ih =>
    rw [splitAll] at h
    split at h
    · obtain rfl | later := List.mem_cons.mp h
      · exact List.not_mem_nil
      · exact ih later
    next differs =>
      split at h
      next first parts held =>
        rw [held] at ih
        obtain rfl | later := List.mem_cons.mp h
        · exact List.not_mem_cons_of_ne_of_not_mem (Ne.symm differs) (ih List.mem_cons_self)
        · exact ih (List.mem_cons_of_mem first later)
      next =>
        obtain rfl := List.mem_singleton.mp h
        simpa using Ne.symm differs

end ConceptModel.Text

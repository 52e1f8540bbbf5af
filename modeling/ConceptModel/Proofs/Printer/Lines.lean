import ConceptModel.Printer.Cto
import ConceptModel.Proofs.Text.Split
import Mathlib.Data.List.DropRight

/-!
# Lines of a text

A text of lines without line breaks in them splits back into these lines, but for the blank
ones at its end, which are trimmed: `splitAll_trimLineBreaks`.
-/

namespace ConceptModel

/-! ### Lines -/

namespace Printer

open Text

variable {ls ks : List String}

/-- Whether a line is blank. -/
def isBlankLine (l : String) : Bool := l = ""

/-- Whether a text is on one line. -/
def Solid (s : String) : Prop := '\n' ∉ s.toList

instance : DecidablePred Solid := fun s => inferInstanceAs (Decidable ('\n' ∉ s.toList))

/-- Two texts make an unbroken one just in case both are. -/
@[simp]
theorem solid_append
    {s t : String} :
  Solid (s ++ t) ↔ Solid s ∧ Solid t
  := by simp [Solid]

/-- Whether each line is one. -/
def Unbroken (ls : List String) : Prop := ∀ l ∈ ls, Solid l

instance : DecidablePred Unbroken := fun ls => inferInstanceAs (Decidable (∀ l ∈ ls, Solid l))

@[simp]
theorem unbroken_nil :
  Unbroken []
  := List.forall_mem_nil _

@[simp]
theorem unbroken_append :
  Unbroken (ls ++ ks) ↔ Unbroken ls ∧ Unbroken ks
  := List.forall_mem_append

@[simp]
theorem unbroken_cons
    {l : String} :
  Unbroken (l :: ls) ↔ Solid l ∧ Unbroken ls
  := List.forall_mem_cons

/-- Each line ends in a line break. -/
theorem toList_lines (ls : List String) :
  (lines ls).toList = ls.flatMap fun l => l.toList ++ ['\n']
  := by simp [lines, String.toList_join, List.flatMap_map, line]

theorem toList_lines_concat (ls : List String) (l : String) :
  (lines (ls ++ [l])).toList = (lines ls).toList ++ (l.toList ++ ['\n'])
  := by simp [toList_lines]

/-- Unbroken lines are what their text is split into. -/
theorem splitAll_lines
    (h : Unbroken ls) (rest : List Char) :
  splitAll '\n' ((lines ls).toList ++ rest) = ls.map String.toList ++ splitAll '\n' rest
  := by
  induction ls with
  | nil => rfl
  | cons l ls ih =>
    rw [unbroken_cons] at h
    rw [toList_lines] at ih ⊢
    rw [List.flatMap_cons, List.append_assoc, List.append_assoc, List.singleton_append,
      splitAll_append_cons h.1, ih h.2]
    rfl

/-- The lines of a text. -/
def linesOf (text : String) : List String := (splitAll '\n' text.toList).map String.ofList

/-- An unbroken text is its only line. -/
theorem linesOf_of_solid
    {l : String} (h : Solid l) :
  linesOf l = [l]
  := by rw [linesOf, splitAll_of_notMem h, List.map_singleton, String.ofList_toList]

/-- Unbroken lines are their own lines. -/
theorem flatMap_linesOf
    (h : Unbroken ls) :
  ls.flatMap linesOf = ls
  :=
    calc
      ls.flatMap linesOf = ls.flatMap ([·]) :=
        List.flatMap_congr fun l mem => linesOf_of_solid (h l mem)
      _ = ls := List.flatMap_singleton' ls

/-- A text of lines has the lines of each of them, and a blank one after the last. -/
theorem linesOf_lines (ls : List String) :
  linesOf (lines ls) = ls.flatMap linesOf ++ [""]
  := by
  induction ls with
  | nil => rfl
  | cons l ls ih =>
    rw [linesOf, toList_lines] at ih
    rw [linesOf, toList_lines, List.flatMap_cons, List.append_assoc, List.singleton_append,
      splitAll_append_separator, List.map_append, ih, List.flatMap_cons, List.append_assoc]
    rfl

end Printer

namespace Printer.Cto

open Text

variable {ls ks : List String}

/-- Trimming drops the line breaks at the end. -/
theorem toList_trimLineBreaks (s : String) :
  (trimLineBreaks s).toList = s.toList.rdropWhile (· = '\n')
  := String.toList_ofList

/-- Blank lines at the end are trimmed. -/
theorem trimLineBreaks_lines_rdropWhile (ls : List String) :
  trimLineBreaks (lines (ls.rdropWhile isBlankLine)) = trimLineBreaks (lines ls)
  := by
  induction ls using List.reverseRecOn with
  | nil => rfl
  | append_singleton ls l ih =>
    rw [List.rdropWhile_concat]
    split
    next blank =>
      obtain rfl : l = "" := by simpa [isBlankLine] using blank
      rw [ih, ← String.toList_inj, toList_trimLineBreaks, toList_trimLineBreaks,
        toList_lines_concat, String.toList_empty, List.nil_append,
        List.rdropWhile_concat_pos _ _ _ (by simp)]
    next => rfl

/-- A text ends where its last line does, if this is not blank. -/
theorem toList_trimLineBreaks_lines
    {l : String} (solid : Solid l) (nonblank : l ≠ "") :
  (trimLineBreaks (lines (ls ++ [l]))).toList = (lines ls).toList ++ l.toList
  := by
  have filled : l.toList ≠ [] := by simpa using nonblank
  obtain ⟨front, last, split⟩ := (List.eq_nil_or_concat' _).resolve_left filled
  have keeps : last ≠ '\n' := by
    rintro rfl
    exact solid (by simp [split])
  rw [toList_trimLineBreaks, toList_lines_concat, ← List.append_assoc,
    List.rdropWhile_concat_pos _ _ _ (by simp), split, ← List.append_assoc,
    List.rdropWhile_concat_neg _ _ _ (by simpa using keeps)]

/-- A text of unbroken lines splits back into these lines, but for the blank ones at its
end. -/
theorem splitAll_trimLineBreaks
    (h : Unbroken ls) (filled : ls.rdropWhile isBlankLine ≠ []) :
  splitAll '\n' (trimLineBreaks (lines ls)).toList
    = (ls.rdropWhile isBlankLine).map String.toList
  := by
  rw [← trimLineBreaks_lines_rdropWhile]
  have last := List.rdropWhile_last_not isBlankLine ls filled
  have unbroken : Unbroken (ls.rdropWhile isBlankLine) :=
    fun l mem => h l ((List.rdropWhile_prefix isBlankLine ls).subset mem)
  obtain ⟨front, l, split⟩ := (List.eq_nil_or_concat' _).resolve_left filled
  simp only [split, List.getLast_append_singleton] at last
  rw [split, unbroken_append, unbroken_cons] at unbroken
  rw [split, toList_trimLineBreaks_lines unbroken.2.1 (by simpa [isBlankLine] using last),
    splitAll_lines unbroken.1, splitAll_of_notMem unbroken.2.1, List.map_append]
  rfl

/-- Texts of unbroken lines are the same when their lines are, but for the blank ones at
their ends. -/
theorem trimLineBreaks_lines_inj
    (h : Unbroken ls) (h' : Unbroken ks) (filled : ls.rdropWhile isBlankLine ≠ [])
    (filled' : ks.rdropWhile isBlankLine ≠ []) :
  trimLineBreaks (lines ls) = trimLineBreaks (lines ks)
    ↔ ls.rdropWhile isBlankLine = ks.rdropWhile isBlankLine
  := by
  constructor
  · intro same
    have parts := splitAll_trimLineBreaks h filled
    rw [same, splitAll_trimLineBreaks h' filled'] at parts
    exact List.map_injective_iff.mpr (fun _ _ => String.toList_inj.mp) parts.symm
  · intro same
    rw [← trimLineBreaks_lines_rdropWhile ls, same, trimLineBreaks_lines_rdropWhile ks]

end Printer.Cto

end ConceptModel

import ConceptModel.Printer.Cto

/-!
# Patterns between slashes

A pattern is printed between two slashes, as it is.  Reading up to the first slash that no
backslash precedes gives it back just when it is `Closed`: `upToSlash_eq_iff`.
-/

namespace ConceptModel.Printer

/-- The characters up to the first slash that no backslash precedes, after a character. -/
def upToSlash (previous : Char) : List Char → Option (List Char)
  | [] => none
  | c :: rest =>
    if c = '/' && previous ≠ '\\' then some [] else (upToSlash c rest).map (c :: ·)

/-- Whether a backslash stands before every slash of a pattern, but none at its end. -/
def Closed (pattern : List Char) : Prop :=
  (∀ before after, pattern = before ++ '/' :: after → before.getLast? = some '\\') ∧
    pattern.getLast? ≠ some '\\'

/-- Reading up to a slash gives back the part before it just when, with the character in
front of the part, a backslash precedes every slash of the part and not its end. -/
theorem upToSlash_append
    (previous : Char) (pattern rest : List Char) :
  upToSlash previous (pattern ++ '/' :: rest) = some pattern ↔
    (∀ before after, pattern = before ++ '/' :: after →
      (previous :: before).getLast? = some '\\') ∧
    (previous :: pattern).getLast? ≠ some '\\'
  := by
  induction pattern generalizing previous with
  | nil => by_cases escaped : previous = '\\' <;> simp [upToSlash, escaped]
  | cons c pattern ih =>
    have slashes : (∀ before after, c :: pattern = before ++ '/' :: after →
          (previous :: before).getLast? = some '\\') ↔
        (c = '/' → previous = '\\') ∧ ∀ before after, pattern = before ++ '/' :: after →
          (c :: before).getLast? = some '\\' := by
      constructor
      · intro all
        constructor
        · rintro rfl
          simpa using all [] pattern rfl
        · rintro before after rfl
          simpa using all (c :: before) after rfl
      · rintro ⟨first, others⟩ (- | ⟨d, before⟩) after split
        · obtain ⟨rfl, rfl⟩ := List.cons.inj split
          simp [first rfl]
        · obtain ⟨rfl, rfl⟩ := List.cons.inj split
          simpa using others before after rfl
    rw [slashes, List.getLast?_cons_cons, and_assoc, ← ih, List.cons_append, upToSlash]
    split
    next stops =>
      obtain ⟨rfl, plain⟩ : c = '/' ∧ previous ≠ '\\' := by simpa using stops
      simp [plain]
    next goes =>
      have escaped : c = '/' → previous = '\\' := by simpa using goes
      simpa using fun _ => escaped

/-- A pattern is given back just when it is closed. -/
theorem upToSlash_eq_iff
    (pattern rest : List Char) :
  upToSlash '/' (pattern ++ '/' :: rest) = some pattern ↔ Closed pattern
  := by
  have first (before : List Char) :
      ('/' :: before).getLast? = some '\\' ↔ before.getLast? = some '\\' := by
    cases before <;> simp
  simp only [upToSlash_append, first, Closed, ne_eq]

end ConceptModel.Printer

/-!
# Faults of patterns

Why a text cannot be used as a regular expression.  A malformed pattern is no regular
expression; a pattern with any other fault is one, but goes beyond what can be done
with it.
-/

namespace ConceptModel.Regex

/-- Why a text cannot be used as a regular expression. -/
inductive Fault where
  /-- The text is no regular expression. -/
  | malformed
  /-- A number of repetitions is too large. -/
  | tooManyRepetitions
  /-- A number of repetitions has too many digits. -/
  | tooManyDigits
  /-- Two kinds of text are chosen at once. -/
  | conflictingFlags
  /-- What looks back looks back too far. -/
  | tooFarBehind
deriving DecidableEq, Repr

/-- The value of an option, whose absence is a malformed pattern. -/
def orMalformed {α : Type} : Option α → Except Fault α
  | some a => .ok a
  | none => .error .malformed

/-- Nothing, unless a pattern is malformed. -/
def demand (condition : Bool) : Except Fault Unit :=
  if condition then .ok () else .error .malformed

end ConceptModel.Regex

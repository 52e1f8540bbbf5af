import ConceptModel.Regex.Fault
import ConceptModel.Regex.Width

/-!
# Surveys of patterns

What is known of a pattern while it is read: the groups, the flags, and what cannot be
judged before the end.  A group may be referred to once it is closed, and from inside
a text that looks back only if it was opened before.
-/

namespace ConceptModel.Regex

/-- What is known of a pattern as far as it has been read. -/
structure Survey where
  /-- The number of groups that have been opened. -/
  opened : Nat := 0
  /-- The widths of the groups that have been closed. -/
  closed : List (Nat × Width) := []
  /-- The numbers of the groups that have names. -/
  names : List (List Char × Nat) := []
  /-- The number of groups opened before the outermost text that looks back. -/
  behind : Option Nat := none
  /-- The numbers that conditions have asked for. -/
  asked : List Nat := []
  /-- The flags that hold for the whole pattern. -/
  flags : List Char := []
  /-- Whether something is repeated. -/
  repeats : Bool := false
  /-- The widths of the texts that look back. -/
  backward : List Width := []

namespace Survey

/-- Whether blanks and comments are left out of the whole pattern. -/
def isVerbose (s : Survey) : Bool := s.flags.contains 'x'

/-! ### Groups -/

/-- The survey with one more group opened, which may have a name that is new. -/
def push? (s : Survey) (name : Option (List Char)) : Option Survey :=
  let number := s.opened + 1
  match name with
  | none => some { s with opened := number }
  | some n =>
    if (s.names.lookup n).isSome then none
    else some { s with opened := number, names := (n, number) :: s.names }

/-- The survey with a group closed, whose width is known by now. -/
def close (s : Survey) (number : Nat) (w : Width) : Survey :=
  { s with closed := (number, w) :: s.closed }

/-- Whether a group may be referred to from inside a text that looks back, if the place
is inside one. -/
def isVisible (s : Survey) (number : Nat) : Bool :=
  match s.behind with
  | none => true
  | some before => (s.closed.lookup number).isSome && number ≤ before

/-- The width of a group that may be referred to. -/
def width? (s : Survey) (number : Nat) : Option Width :=
  if s.isVisible number then s.closed.lookup number else none

/-! ### Texts that look back -/

/-- The survey at the start of a text that looks back. -/
def enterBehind (s : Survey) : Survey :=
  { s with behind := some (s.behind.getD s.opened) }

/-- The survey after a text that looks back, which `before` had led to. -/
def leaveBehind (s before : Survey) (w : Width) : Survey :=
  { s with behind := before.behind, backward := w :: s.backward }

/-! ### The end -/

/-- The greatest distance that can be looked back. -/
def farthest : Nat := 2147483647

/-- What is judged when a pattern has been read, before anything that follows it: the
kinds of text do not conflict. -/
def checkFlags (s : Survey) : Except Fault Unit :=
  if s.flags.contains 'a' && s.flags.contains 'u' then .error .conflictingFlags else .ok ()

/-- What is judged when nothing follows: conditions ask for groups that exist, a
template repeats nothing, and what looks back matches texts of one length that is not
too large. -/
def conclude (s : Survey) : Except Fault Unit := do
  demand (s.asked.all (· ≤ s.opened))
  demand (!(s.repeats && s.flags.contains 't'))
  demand (s.backward.all Width.isFixed)
  if s.backward.all (·.least ≤ farthest) then .ok () else .error .tooFarBehind

end Survey

end ConceptModel.Regex

/-!
# Control sequences

The sequences of characters by which a text styles itself on a terminal: an escape
character and an opening bracket, parameters, and a letter.  A text that is shown
elsewhere goes without them.
-/

namespace ConceptModel.Text

/-- Whether a character is part of the parameters of a control sequence. -/
def isControlParameter (c : Char) : Bool := c.isDigit || c = ';' || c = '?'

/-- The number of characters of the control sequence with which a text starts; zero if it
starts with none. -/
def controlLength : List Char → Nat
  | '\x1b' :: '[' :: rest =>
    let (parameters, after) := rest.span isControlParameter
    match after with
    | letter :: _ => if letter.isAlpha then parameters.length + 3 else 0
    | [] => 0
  | _ => 0

/-- A text without the first `skipped` characters, and without the control sequences in
what follows. -/
def dropControls : Nat → List Char → List Char
  | _, [] => []
  | skipped + 1, _ :: rest => dropControls skipped rest
  | 0, c :: rest =>
    match controlLength (c :: rest) with
    | 0 => c :: dropControls 0 rest
    | length + 1 => dropControls length rest

/-- A text without its control sequences. -/
def unstyled (s : String) : String := String.ofList (dropControls 0 s.toList)

/-! ### Examples -/

example : unstyled "\x1b[1;31mred\x1b[0m" = "red" := by decide +kernel

example : unstyled "\x1b[31 red" = "\x1b[31 red" := by decide +kernel

end ConceptModel.Text

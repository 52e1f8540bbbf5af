import ConceptModel.Command.Message

/-!
# Running the command

A run of the command on a workspace: what it prints, the code with which it exits, and
the workspace that it leaves.
-/

namespace ConceptModel.Command

/-- The outcome of a run. -/
structure Run where
  exitCode : Nat
  stdout : String := ""
  stderr : String := ""
  /-- An error that ends the run without a message. -/
  silent : Option CommandError := none
  workspace : Workspace
deriving DecidableEq, Repr

namespace Run

/-- A run that ends with an error after some lines, and leaves a workspace. -/
def failed (ws : Workspace) (lines : String) (e : CommandError) : Run :=
  match e with
  | .usage e => { exitCode := 2, stderr := lines ++ e.text, workspace := ws }
  | .conversion f =>
    match blame? f with
    | some message => { exitCode := 1, stderr := lines ++ errorLine message, workspace := ws }
    | none => { exitCode := 1, stderr := lines, silent := some e, workspace := ws }
  | _ => { exitCode := 1, stderr := lines, silent := some e, workspace := ws }

/-- The run of a request. -/
def ofRequest (ws : Workspace) (r : Request) : Run :=
  let (events, after, outcome) := r.carryOut ws
  let lines := eventTexts r.verbose events
  match outcome with
  | .ok () => { exitCode := 0, stderr := lines, workspace := after }
  | .error e => failed after lines e

/-- The run that shows the help text. -/
def help (ws : Workspace) : Run := { exitCode := 0, stdout := helpText, workspace := ws }

end Run

/-- Runs the command with the words of a command line. -/
def run (ws : Workspace) (words : List String) : Run :=
  match Selection.ofWords words with
  | .error e => .failed ws "" (.usage (.words e))
  | .ok s =>
    if s.isOn .help then .help ws
    else
      match s.request? ws with
      | .error e => .failed ws "" e
      | .ok r => .ofRequest ws r

end ConceptModel.Command

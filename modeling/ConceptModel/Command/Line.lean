import ConceptModel.Command.Parameter
import ConceptModel.Workspace

/-!
# Command lines

The command line that a generation comment shows, built anew from the values of the
parameters: arguments before options, without what has its default value, and with
names of existing files cut down to their last part.
-/

namespace ConceptModel.Command

/-- A value as a command line shows it. -/
def shownValue (ws : Workspace) : Json → Except AccessError String
  | .string text => ws.shown text
  | .array items => .ok ("/".intercalate (items.map Json.plain))
  | v => .ok v.plain

/-- Whether a value is absent: there is none, or it is false. -/
def isAbsent (v : Json) : Bool := v = .null || v = .bool false

/-- Whether a value is the default of a parameter; zero counts as false. -/
def isDefault (p : Parameter) (v : Json) : Bool :=
  match p.default, v with
  | .bool false, .number x => x.isZero
  | d, v => d = v

/-- The words for an argument. -/
def argumentWords (ws : Workspace) (v : Json) : Except AccessError (List String) :=
  if isAbsent v then .ok [] else (shownValue ws v).map fun word => [word]

/-- The words for an option. -/
def optionWords (ws : Workspace) (p : Parameter) (v : Json) :
    Except AccessError (List String) :=
  if isAbsent v || isDefault p v then .ok []
  else if p.isSwitch then .ok [p.long]
  else (shownValue ws v).map fun word => [p.long, word]

/-- The command line for the values of the parameters.  There is none when a value cannot
be looked up as a name. -/
def line (ws : Workspace) (value : Parameter → Json) : Except AccessError String := do
  let arguments ← Parameter.arguments.mapM fun p => argumentWords ws (value p)
  let options ←
    (Parameter.options.filter (· ≠ .help)).mapM fun p => optionWords ws p (value p)
  return " ".intercalate (programName :: (arguments ++ options).flatten)

end ConceptModel.Command

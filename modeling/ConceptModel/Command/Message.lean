import ConceptModel.Command.Request
import ConceptModel.Text.ControlSequence
import ConceptModel.Text.Surrogate

/-!
# Messages of the command

What the command prints: its usage and its help, the message of an error, and a line for
each event.
-/

namespace ConceptModel.Command

/-! ### Usage -/

/-- The line that shows how to use the command. -/
def usageLine : String := "Usage: json-schema-to-concerto [OPTIONS] [PATH] [OUTPUT]\n"

/-- The help text. -/
def helpText : String :=
  usageLine
    ++ "\nOptions:\n"
    ++ "  -n, --namespace TEXT           Namespace of the generated model, e.g.\n"
    ++ "                                 com.example@1.0.0\n"
    ++ "  -c, --config PATH\n"
    ++ "  -f, --format [cto|json|ts|md]\n"
    ++ "  --definitions-path TEXT        Slash-separated location of the definitions,\n"
    ++ "                                 e.g. components/schemas\n"
    ++ "  --metamodel-namespace TEXT\n"
    ++ "  -v, --verbose                  Log debug messages\n"
    ++ "  --help                         Show this message and exit.\n"

/-! ### Errors -/

/-- A text between single quotes, with escapes where they are needed. -/
def quoted (text : String) : String := Json.plainQuote text

/-- What may have been meant, after a blank. -/
def suggestion : List String → String
  | [] => ""
  | [spelling] => " Did you mean " ++ quoted spelling ++ "?"
  | spellings => " (Did you mean one of: " ++ ", ".intercalate (spellings.map quoted) ++ "?)"

/-- The message about words that select nothing. -/
def WordError.message : WordError → String
  | unknownOption spelling near =>
    "No such option " ++ quoted spelling ++ "." ++ suggestion near
  | valueMissing spelling => "Option " ++ quoted spelling ++ " requires an argument."
  | valueUnexpected spelling => "Option " ++ quoted spelling ++ " does not take a value."

/-- The message about the usage. -/
def UsageError.message : UsageError → String
  | words e => e.message
  | noSuchPath p value =>
    "Invalid value for " ++ p.hint ++ ": Path " ++ quoted value ++ " does not exist."
  | unknownFormat value =>
    "Invalid value for " ++ Parameter.format.hint ++ ": " ++ quoted value ++ " is not one of "
      ++ ", ".intercalate (Format.all.map fun f => quoted f.name) ++ "."
  | extraArguments values =>
    "Got unexpected extra argument" ++ (if values.length = 1 then "" else "s") ++ " ("
      ++ " ".intercalate values ++ ")"
  | namespaceMissing =>
    "A namespace is required, pass --namespace or set it in the config file."

/-- Whether the usage is shown with the message: not for the value of an option. -/
def UsageError.showsUsage : UsageError → Bool
  | words (.valueMissing _) | words (.valueUnexpected _) => false
  | _ => true

/-- A message on a line of its own, without control sequences. -/
def errorLine (message : String) : String :=
  Text.shown (Text.unstyled ("Error: " ++ message ++ "\n"))

/-- The text about a fault of the usage. -/
def UsageError.text (e : UsageError) : String :=
  (if e.showsUsage then
      usageLine ++ "Try 'json-schema-to-concerto --help' for help.\n\n"
    else "")
    ++ errorLine e.message

/-- The message about a failure for which the schema is to blame, if it is. -/
def blame? (f : Failure) : Option String :=
  match f with
  | .invalidSchema => some "Invalid JSON Schema: ..."
  | .namespaceMissing | .unsupportedProperty .. | .unsupportedDefinition .. => f.message?
  | _ => none

/-! ### Events -/

/-- The part of the program from which a note comes. -/
def noteSource : Note → String
  | .checking _ => "analyzer.schema_validation"
  | .located .. | .remoteSkipped _ | .declared _ => "analyzer.visitor"
  | .modelled .. | .rendering _ => "generator"

/-- The message of a note. -/
def noteMessage : Note → String
  | .checking dialect => "Checking schema with " ++ dialect.validatorName
  | .located root container =>
    let place := "/".intercalate container
    "Root '" ++ root ++ "', definitions at " ++ (if place = "" then "<none>" else place)
  | .remoteSkipped reference => "Skipping remote reference " ++ reference.plain
  | .declared count => "Inferred " ++ toString count ++ " declarations"
  | .modelled count namespaceName =>
    "Inferred " ++ toString count ++ " model(s) in " ++ namespaceName.plain
  | .rendering printer => "Rendering with " ++ printer

/-- A line about an event: its level, its source and its message. -/
def eventLine (level source message : String) : String :=
  Text.shown (level ++ " " ++ programName ++ ".pipeline." ++ source ++ ": " ++ message ++ "\n")

/-- The line of an event, if it is shown: warnings always are, notes on demand. -/
def eventText (verbose : Bool) : Event → String
  | .warning w => eventLine "WARNING" "generator" w.message
  | .note n => if verbose then eventLine "DEBUG" (noteSource n) (noteMessage n) else ""

/-- The lines of events. -/
def eventTexts (verbose : Bool) (events : List Event) : String :=
  String.join (events.map (eventText verbose))

end ConceptModel.Command

import ConceptModel.Command.Line
import ConceptModel.Command.Selection
import ConceptModel.Json.Reader

/-!
# Requests

What a selection of options and arguments asks for, with the places that it names, and
the text that it asks for.  Carrying out a request writes this text to its place, which
is touched only once there is a text.
-/

namespace ConceptModel.Command

/-- Why the usage of the command is at fault. -/
inductive UsageError where
  /-- The words select nothing. -/
  | words (e : WordError)
  /-- The value of a parameter names nothing that exists. -/
  | noSuchPath (p : Parameter) (value : String)
  /-- No format has this name. -/
  | unknownFormat (value : String)
  /-- There are more arguments than parameters. -/
  | extraArguments (values : List String)
  /-- No namespace is chosen. -/
  | namespaceMissing
deriving DecidableEq, Repr

/-- Why the command fails. -/
inductive CommandError where
  /-- The usage is at fault. -/
  | usage (e : UsageError)
  /-- The conversion fails. -/
  | conversion (f : Failure)
  /-- A file cannot be read or written. -/
  | access (e : AccessError)
  /-- A value holds a character that no name may hold. -/
  | unnamable
  /-- The text of a file cannot be read as JSON. -/
  | unreadable (e : Json.ReadFault)
  /-- An argument is missing. -/
  | argumentMissing
deriving DecidableEq, Repr

/-- What the command is asked for. -/
structure Request where
  namespaceName : Option String := none
  config : Option Place := none
  format : Format := .cto
  definitionsPath : Option String := none
  metaNamespace : Option String := none
  verbose : Bool := false
  path : Option Place := none
  output : Option Place := none
deriving DecidableEq, Repr

/-! ### Requests of selections -/

namespace Selection

/-- The value that a parameter was given. -/
def given? (s : Selection) : Parameter → Option String
  | .path => s.arguments[0]?
  | .output => s.arguments[1]?
  | p => s.value? p

/-- The format with a name. -/
def format? (name : String) : Option Format := Format.all.find? fun f => f.name = name

/-- Checks that a value can be the name of a file. -/
def checkName (value : String) : Except CommandError Unit :=
  if value.toList.contains '\x00' then .error .unnamable else .ok ()

/-- Checks the value that a parameter was given: names must be possible, the document and
the settings must exist, and the format must be known. -/
def check (ws : Workspace) (s : Selection) (p : Parameter) : Except CommandError Unit :=
  match p, s.given? p with
  | .config, some value | .path, some value => do
    checkName value
    if ws.holds (ws.resolve value) then .ok () else .error (.usage (.noSuchPath p value))
  | .output, some value => checkName value
  | .format, some name =>
    if (format? name).isSome then .ok () else .error (.usage (.unknownFormat name))
  | _, _ => .ok ()

/-- Checks what was selected: options in the order of their appearance, then the
arguments, then their number. -/
def checkAll (ws : Workspace) (s : Selection) : Except CommandError Unit := do
  (s.choices.map Prod.fst ++ [Parameter.path, Parameter.output]).forM (s.check ws)
  if s.arguments.length ≤ 2 then .ok ()
  else .error (.usage (.extraArguments (s.arguments.drop 2)))

/-- The request that a selection makes. -/
def request (ws : Workspace) (s : Selection) : Request :=
  { namespaceName := s.given? .namespaceName
    config := (s.given? .config).map ws.resolve
    format := ((s.given? .format).bind format?).getD .cto
    definitionsPath := s.given? .definitionsPath
    metaNamespace := s.given? .metaNamespace
    verbose := s.isOn .verbose
    path := (s.given? .path).map ws.resolve
    output := (s.given? .output).map ws.resolve }

/-- The request that a selection makes, unless its check fails. -/
def request? (ws : Workspace) (s : Selection) : Except CommandError Request :=
  (s.checkAll ws).map fun _ => s.request ws

end Selection

namespace Request

/-! ### Values of the parameters -/

/-- A text as a value. -/
def textValue : Option String → Json
  | some text => .string text
  | none => .null

/-- The values of the parameters. -/
def value (r : Request) : Parameter → Json
  | .namespaceName => textValue r.namespaceName
  | .config => textValue (r.config.map Place.text)
  | .format => .string r.format.name
  | .definitionsPath => textValue r.definitionsPath
  | .metaNamespace => textValue r.metaNamespace
  | .verbose => .bool r.verbose
  | .help => .bool false
  | .path => textValue (r.path.map Place.text)
  | .output => textValue (r.output.map Place.text)

/-! ### Document and settings -/

/-- The value that the file at a place holds. -/
def readJson (ws : Workspace) (p : Place) : Except CommandError Json :=
  match ws.read p with
  | .error e => .error (.access e)
  | .ok text => (Json.ofString text).mapError .unreadable

/-- The document. -/
def document (ws : Workspace) (r : Request) : Except CommandError Json :=
  match r.path with
  | some p => readJson ws p
  | none => .error .argumentMissing

/-- The settings of the file with settings, or those by default. -/
def fileSettings (ws : Workspace) (r : Request) : Except CommandError Settings :=
  match r.config with
  | none => .ok {}
  | some p => do
    let v ← readJson ws p
    (Settings.ofJson? v).mapError .conversion

/-- The segments of a path between slashes; empty ones do not count. -/
def pathSegments (path : String) : List String :=
  ((Text.splitAll '/' path.toList).filter (!·.isEmpty)).map String.ofList

/-- A setting under an option, which counts before the setting when it is given. -/
def override {α : Type} (given : Option String) (read : String → α) (setting : α) : α :=
  match given with
  | some text => read text
  | none => setting

/-- The settings under the options. -/
def overrideSettings (r : Request) (s : Settings) : Settings :=
  { s with
    namespaceName := override r.namespaceName .string s.namespaceName
    metaNamespace := override r.metaNamespace .string s.metaNamespace
    definitionsPath :=
      override r.definitionsPath (fun path => some (.array ((pathSegments path).map .string)))
        s.definitionsPath }

/-- The document and the settings of the conversion.  A namespace is required. -/
def prepare (ws : Workspace) (r : Request) : Except CommandError (Json × Settings) := do
  let document ← r.document ws
  let settings ← (r.fileSettings ws).map r.overrideSettings
  if settings.namespaceName.isSet then .ok (document, settings)
  else .error (.usage .namespaceMissing)

/-! ### Carrying out -/

/-- A text that ends in a line break. -/
def endLine (text : String) : String :=
  if text.toList.getLast? = some '\n' then text else text ++ "\n"

/-- Whether the text in a format shows the command line. -/
def showsLine (s : Settings) (f : Format) : Bool :=
  f ≠ .json && s.generationComment.isSet

/-- The text that is asked for, with the events on the way to it.  A command line that
should be shown must exist. -/
def generate (ws : Workspace) (r : Request) : List Event × Except CommandError String :=
  match r.prepare ws with
  | .error e => ([], .error e)
  | .ok (document, settings) =>
    match line ws r.value with
    | .ok text =>
      let report := generateWith document settings r.format text
      (report.events, report.outcome.mapError .conversion)
    | .error e =>
      let report := generateWith document settings r.format ""
      let outcome := report.outcome.mapError .conversion
      (report.events,
        if showsLine settings r.format then outcome.bind fun _ => .error (.access e)
        else outcome)

/-- The workspace after a text is written to the output, and what comes of it. -/
def write (ws : Workspace) (r : Request) (text : String) :
    Workspace × Except CommandError Unit :=
  match r.output with
  | none => (ws, .error .argumentMissing)
  | some p =>
    let (after, outcome) := ws.write p (endLine text)
    (after, outcome.mapError .access)

/-- The events while the request is carried out, the workspace after it, and what comes of
it. -/
def carryOut (ws : Workspace) (r : Request) :
    List Event × Workspace × Except CommandError Unit :=
  match r.generate ws with
  | (events, .error e) => (events, ws, .error e)
  | (events, .ok text) => (events, r.write ws text)

end Request

end ConceptModel.Command

import ConceptModel.Inference.Document
import ConceptModel.Model.Metamodel
import ConceptModel.Printer.Cto
import ConceptModel.Printer.Markdown
import ConceptModel.Printer.TypeScript
import ConceptModel.Settings

/-!
# Generators

A generator holds a document, settings, an output format, and the warnings of its last
inference.  It infers the models of the document and prints them in the format.
-/

namespace ConceptModel

/-- A format in which models are printed. -/
inductive Format where
  | cto
  | json
  | typeScript
  | markdown
deriving DecidableEq, Repr

namespace Format

/-- All formats. -/
def all : List Format := [cto, json, typeScript, markdown]

/-- The name by which a format is chosen. -/
def name : Format → String
  | cto => "cto"
  | json => "json"
  | typeScript => "ts"
  | markdown => "md"

/-- The format that a value names. -/
def ofJson? (v : Json) : Except Failure Format :=
  match all.find? fun f => .string f.name = v with
  | some f => .ok f
  | none => .error (.unknownFormat v)

/-- The name of the printer of a format, unless models are printed as they are
described. -/
def printer? : Format → Option String
  | cto => some "CtoBackend"
  | json => none
  | typeScript => some "TypeScriptBackend"
  | markdown => some "MarkdownBackend"

end Format

/-! ### Printing with settings -/

namespace Settings

/-- The comment about the generation, for a given command line. -/
def comment (s : Settings) (commandLine : String) : Option String :=
  if s.generationComment.isSet then
    some ("Generated by json_schema_to_concerto v1.0.0 : " ++ commandLine)
  else none

/-- How metamodel texts are laid out: indented by a number of blanks or by a given text,
or on one line. -/
def style (s : Settings) : Except Failure Json.Style :=
  match s.indent with
  | .null => .ok (.line false)
  | .bool b => .ok (.indented false (if b then " " else ""))
  | .number (.int n) => .ok (.indented false (String.ofList (List.replicate n.toNat ' ')))
  | .string unit => .ok (.indented false unit)
  | _ => .error .wrongKind

end Settings

/-- The text of models in a format. -/
def printModels (s : Settings) (commandLine : String) (ms : Models) :
    Format → Except Failure String
  | .cto => .ok (Printer.Cto.models (s.comment commandLine) ms)
  | .json => s.style.map fun style => Json.write style ms.toJson
  | .typeScript =>
    match Printer.TypeScript.models? (s.comment commandLine) s.interfaceStart.plain ms with
    | some text => .ok text
    | none => .error .missingPart
  | .markdown => .ok (Printer.Markdown.models (s.comment commandLine) ms)

/-! ### Conversion -/

/-- The models of a document under settings.  A namespace is required. -/
def inferWith (document : Json) (s : Settings) : Report Models :=
  if !s.namespaceName.isSet then .fail .namespaceMissing
  else do
    let path ← Report.ofExcept s.definitionsSegments
    let ms ← Inference.inferModels document s.namespaceName s.metaNamespace.plain path
    Report.note (.modelled ms.models.length s.namespaceName)
    return ms

/-- A note on the printer of a format, if it has one. -/
def announce (f : Format) : Report Unit :=
  match f.printer? with
  | some name => Report.note (.rendering name)
  | none => return ()

/-- The text of a document under settings in a format. -/
def generateWith (document : Json) (s : Settings) (f : Format) (commandLine : String) :
    Report String := do
  let ms ← inferWith document s
  announce f
  Report.ofExcept (printModels s commandLine ms f)

/-! ### Generators -/

/-- A document with settings and a format, and the warnings of the last inference. -/
structure Generator where
  document : Json
  settings : Settings := {}
  format : Format := .cto
  warnings : List Warning := []
deriving DecidableEq, Repr

/-- The program's name, which stands for its command line when there is none. -/
def programName : String := "json_schema_to_concerto"

/-- A step in the life of a generator. -/
inductive Generator.Step where
  /-- Prints the models. -/
  | generate
  /-- Infers the models. -/
  | infer
  /-- Changes a setting by name. -/
  | setSetting (name : String) (value : Json)
  /-- Replaces all settings by those that a value describes. -/
  | loadSettings (value : Json)
  /-- Chooses a format by name. -/
  | setFormat (value : Json)
  /-- Replaces the document. -/
  | setDocument (value : Json)
deriving Repr

/-- What a step answers. -/
inductive Generator.Answer where
  | text (text : String)
  | models (ms : Models)
  | settings (s : Settings)
  | format (f : Format)
  | nothing
deriving Repr

namespace Generator

/-- The warnings among events. -/
def warningsOf (events : List Event) : List Warning :=
  events.filterMap fun
    | .warning w => some w
    | .note _ => none

/-- The generator after an inference with the given events: its warnings are those of
the inference, unless none has started for want of a namespace. -/
def afterInference (g : Generator) (events : List Event) : Generator :=
  if g.settings.namespaceName.isSet then { g with warnings := warningsOf events } else g

/-- The generator after a step, and the answer or the failure.  A failing step leaves
what it would have changed. -/
def step (g : Generator) : Step → Generator × Except Failure Answer
  | .generate =>
    let r := generateWith g.document g.settings g.format programName
    (g.afterInference r.events, r.outcome.map .text)
  | .infer =>
    let r := inferWith g.document g.settings
    (g.afterInference r.events, r.outcome.map .models)
  | .setSetting name value =>
    match g.settings.set name value with
    | .ok settings => ({ g with settings := settings }, .ok (.settings settings))
    | .error e => (g, .error e)
  | .loadSettings value =>
    match Settings.ofJson? value with
    | .ok settings => ({ g with settings := settings }, .ok (.settings settings))
    | .error e => (g, .error e)
  | .setFormat value =>
    match Format.ofJson? value with
    | .ok f => ({ g with format := f }, .ok (.format f))
    | .error e => (g, .error e)
  | .setDocument value => ({ g with document := value }, .ok .nothing)

/-- The answers of steps one after the other, each with the warnings that the generator
then holds. -/
def run (g : Generator) : List Step → List (Except Failure Answer × List Warning)
  | [] => []
  | s :: rest =>
    let (next, answer) := g.step s
    (answer, next.warnings) :: run next rest

end Generator

end ConceptModel

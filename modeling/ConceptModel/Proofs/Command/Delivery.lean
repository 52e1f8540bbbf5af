import ConceptModel.Command.Run
import ConceptModel.Proofs.Generator
import ConceptModel.Proofs.Outcome
import Mathlib.Data.List.Induction
import Mathlib.Logic.IsEmpty.Basic
import Mathlib.Tactic.ByContra

/-!
# Deliveries

A run that does more than show the help text comes to a `Draft` if its files can be read, the
document yields a text under the chosen settings, and the output can be opened.  Options count
before the settings of a file, and these before the defaults.  A run without a draft fails and
leaves the workspace as it was.  A run with a draft succeeds if the text has an encoding: then the
text stands at the output, and nothing else has changed.  But the output is emptied before the
text is encoded, so a run fails and leaves it empty if the text has none: `run_delivers`.
-/

namespace ConceptModel

/-! ### Results -/

section

variable {ε ε' α β : Type}

theorem mapError_eq_ok
    {f : ε → ε'} {x : Except ε α} {a : α} :
  x.mapError f = .ok a ↔ x = .ok a
  := by
  cases x <;> simp [Except.mapError]

theorem map_eq_ok
    {f : α → β} {x : Except ε α} {b : β} :
  x.map f = .ok b ↔ ∃ a, x = .ok a ∧ f a = b
  := by
  cases x <;> simp [Except.map]

theorem bind_eq_ok
    {f : α → Except ε β} {x : Except ε α} {b : β} :
  (x >>= f) = .ok b ↔ ∃ a, x = .ok a ∧ f a = .ok b
  := by
  cases x <;> simp [Bind.bind, Except.bind]

end

/-! ### Settings of a file -/

/-- Settings have the last value that the fields give to their names, or the default, unless the
fields replace all of them. -/
theorem Settings.get?_ofFields
    {fields : List (String × Json)} {s : Settings} (h : ofFields fields = .ok s)
    (single : "__dict__" ∉ fields.map Prod.fst) (name : String) :
  s.toJson.get? name =
    (({} : Settings).toJson.get? name).map fun default => (fields.reverse.lookup name).getD default
  := by
  induction fields using List.reverseRecOn generalizing s name with
  | nil =>
    obtain rfl := Except.ok.inj h
    simp
  | append_singleton fields e ih =>
    obtain ⟨key, value⟩ := e
    rw [List.map_append, List.mem_append, not_or] at single
    obtain ⟨single, other⟩ := single
    simp only [ofFields, List.foldlM_append, List.foldlM_cons, List.foldlM_nil, bind_pure] at h
    obtain ⟨t, first, last⟩ := bind_eq_ok.mp h
    replace ih (name : String) := ih first single name
    -- Nothing is missing, so that the field is set.
    have held : t.definitionsPath = some ((fields.reverse.lookup "path_to_definitions").getD
        (.array [])) := by simpa [toJson_get?] using ih "path_to_definitions"
    rw [take, if_neg (by simp [held])] at last
    rw [List.reverse_concat, List.lookup_cons]
    by_cases same : name = key
    · subst same
      simp [get?_set last]
    · rw [(set_sameAt last same (by simpa [eq_comm] using other)).1, ih,
        beq_eq_false_iff_ne.mpr same]

namespace Workspace

/-- Whether a file can be opened to be written: its names are short enough, they lead through
directories, and it is none itself. -/
def Opens (ws : Workspace) (p : Place) : Prop :=
  areTooLong p = false ∧ ws.obstacle? [] p = none

/-- A file is read just in case it holds a text with an encoding. -/
theorem read_eq_ok
    {ws : Workspace} {p : Place} {text : String} :
  ws.read p = .ok text ↔ ws.text? p = some text ∧ Text.isEncodable text = true
  := by
  unfold read
  cases ws.text? p with
  | none => simp
  | some held =>
    simp only [Option.some.injEq]
    split
    next encodable =>
      constructor
      · rintro ⟨⟩
        exact ⟨rfl, encodable⟩
      · rintro ⟨rfl, -⟩
        rfl
    next unencodable =>
      constructor
      · rintro ⟨⟩
      · rintro ⟨rfl, encodable⟩
        exact absurd encodable unencodable

/-- A file that opens is emptied. -/
theorem opened_eq_ok
    {ws emptied : Workspace} {p : Place} :
  ws.opened p = .ok emptied ↔ ws.Opens p ∧ ws.put p "" = emptied
  := by
  unfold opened Opens
  split
  next long => simp [long]
  next short =>
    split
    next obstacle => simp [obstacle]
    next free => simp [short, free]

/-- What is written to a file that opens, if it has an encoding. -/
theorem write_of_opens
    {ws : Workspace} {p : Place} (h : ws.Opens p) (text : String) :
  ws.write p text =
    if Text.isEncodable text then (ws.put p text, .ok ())
    else (ws.put p "", .error .unencodable)
  := by
  rw [write, opened_eq_ok.mpr ⟨h, rfl⟩]
  simp only [put_put]

/-- Writing to a file that does not open changes nothing. -/
theorem write_of_not_opens
    {ws : Workspace} {p : Place} (h : ¬ ws.Opens p) (text : String) :
  ∃ e, ws.write p text = (ws, .error e)
  := by
  unfold write
  cases attempt : ws.opened p with
  | error e => exact ⟨e, rfl⟩
  | ok emptied => exact absurd (opened_eq_ok.mp attempt).1 h

end Workspace

namespace Command

/-! ### Drafts -/

/-- Whether the file at a place holds a value, if a place is named. -/
def Holds (ws : Workspace) (p : Option Place) (v : Json) : Prop :=
  ∃ place text, p = some place ∧ ws.text? place = some text ∧ Text.isEncodable text = true ∧
    Json.ofString text = .ok v

namespace Request

/-- Whether fields are those of the file with settings, or there are none and no such file. -/
def Configured (ws : Workspace) (r : Request) (config : List (String × Json)) : Prop :=
  r.config = none ∧ config = [] ∨ Holds ws r.config (.object config)

/-- The value that a request gives to a setting, which counts before that of a file. -/
def setting? (r : Request) : String → Option Json
  | "namespace" => r.namespaceName.map .string
  | "meta_model_namespace" => r.metaNamespace.map .string
  | "path_to_definitions" =>
    r.definitionsPath.map fun path => .array ((pathSegments path).map .string)
  | _ => none

/-- Settings have the values that a request gives to their names, or those that they had. -/
theorem get?_overrideSettings
    (r : Request) (s : Settings) (name : String) :
  (r.overrideSettings s).toJson.get? name = (r.setting? name).or (s.toJson.get? name)
  := by
  simp only [Settings.toJson_get?, overrideSettings]
  fun_cases r.setting? name
  case case1 => cases r.namespaceName <;> rfl
  case case2 => cases r.metaNamespace <;> rfl
  case case3 => cases r.definitionsPath <;> rfl
  case case4 h₁ h₂ h₃ => simp [Ne.symm h₁, Ne.symm h₂, Ne.symm h₃]

end Request

/-- What a request comes to before its text is encoded: the document and the settings that the
files hold, the text that they yield, and the output, which can be opened. -/
structure Draft (ws : Workspace) (r : Request) where
  document : Json
  /-- The fields of the file with settings, if there is one. -/
  config : List (String × Json)
  /-- The settings that these fields make. -/
  fileSettings : Settings
  commandLine : String
  text : String
  output : Place
  isDocument : Holds ws r.path document
  isConfig : r.Configured ws config
  isFileSettings : Settings.ofFields config = .ok fileSettings
  /-- The command line is the one that is shown, if one is. -/
  isLine : line ws r.value = .ok commandLine ∨
    Request.showsLine (r.overrideSettings fileSettings) r.format = false
  isText : (generateWith document (r.overrideSettings fileSettings) r.format commandLine).outcome =
    .ok text
  isOutput : r.output = some output
  opens : ws.Opens output

namespace Draft

variable {ws : Workspace} {r : Request} (d : Draft ws r)

/-- The settings of a draft. -/
def settings : Settings := r.overrideSettings d.fileSettings

/-- The workspace with the text at the output. -/
def delivered : Workspace := ws.put d.output (Request.endLine d.text)

/-- The workspace with an empty file at the output. -/
def emptied : Workspace := ws.put d.output ""

end Draft

/-- Whether words ask for the help text. -/
def AsksHelp (words : List String) : Prop :=
  ∃ s, Selection.ofWords words = .ok s ∧ s.isOn .help = true

/-- Whether words make a request. -/
def Requests (ws : Workspace) (words : List String) (r : Request) : Prop :=
  ∃ s, Selection.ofWords words = .ok s ∧ s.request? ws = .ok r

theorem not_asksHelp
    {words : List String} {s : Selection} (h : Selection.ofWords words = .ok s)
    (unset : s.isOn .help = false) :
  ¬ AsksHelp words
  := by
  rintro ⟨s', selected, help⟩
  obtain rfl := Except.ok.inj (h.symm.trans selected)
  simp [unset] at help

/-! ### Steps of a request -/

namespace Request

variable {ws after : Workspace} {r : Request} {document v : Json} {settings : Settings}
  {text : String}

/-- A value is read from a file just in case its text spells one. -/
theorem readJson_eq_ok
    {place : Place} :
  readJson ws place = .ok v ↔ ∃ text, ws.text? place = some text ∧ Text.isEncodable text = true ∧
    Json.ofString text = .ok v
  := by
  simp only [← and_assoc, ← Workspace.read_eq_ok]
  unfold readJson
  cases ws.read place with
  | error e => simp
  | ok text => simp [mapError_eq_ok]

theorem document_eq_ok :
  r.document ws = .ok v ↔ Holds ws r.path v
  := by
  unfold document Holds
  cases r.path with
  | none => simp
  | some place => simp [readJson_eq_ok]

/-- Settings are those of a file with an object, or those by default without a file. -/
theorem fileSettings_eq_ok :
  r.fileSettings ws = .ok settings ↔
    ∃ config, r.Configured ws config ∧ Settings.ofFields config = .ok settings
  := by
  unfold fileSettings Configured
  cases r.config with
  | none => simp [Holds, Settings.ofFields, pure, Except.pure]
  | some place =>
    have described (v : Json) : Settings.ofJson? v = .ok settings ↔
        ∃ config, v = .object config ∧ Settings.ofFields config = .ok settings := by
      cases v <;> simp [Settings.ofJson?]
    simp only [bind_eq_ok, mapError_eq_ok, described, readJson_eq_ok, Holds, Option.some.injEq]
    grind

/-- A request is prepared when its files can be read and a namespace is chosen. -/
theorem prepare_eq_ok :
  r.prepare ws = .ok (document, settings) ↔ Holds ws r.path document ∧
    ∃ config s, r.Configured ws config ∧ Settings.ofFields config = .ok s ∧
      r.overrideSettings s = settings ∧ settings.namespaceName.isSet = true
  := by
  unfold prepare
  simp only [bind_eq_ok, map_eq_ok, document_eq_ok, fileSettings_eq_ok]
  constructor
  · rintro ⟨held, isHeld, _, ⟨s, ⟨config, given, made⟩, rfl⟩, chosen⟩
    split at chosen
    next isSet =>
      obtain ⟨rfl, rfl⟩ := Prod.mk.inj (Except.ok.inj chosen)
      exact ⟨isHeld, config, s, given, made, rfl, isSet⟩
    next => nomatch chosen
  · rintro ⟨isHeld, config, s, given, made, rfl, isSet⟩
    exact ⟨document, isHeld, _, ⟨s, ⟨config, given, made⟩, rfl⟩, if_pos isSet⟩

/-- A text in which no command line is shown is the same whatever the command line. -/
theorem generateWith_eq_of_not_showsLine
    {f : Format} (hidden : showsLine settings f = false) (left right : String) :
  generateWith document settings f left = generateWith document settings f right
  := by
  have printed (ms : Models) :
      printModels settings left ms f = printModels settings right ms f := by
    unfold showsLine at hidden
    cases f <;> simp_all [printModels, Settings.comment]
  simp only [generateWith, printed]

/-- A request has a text just in case it is prepared, its command line is known where one is shown,
and the conversion has it. -/
theorem generate_eq_ok :
  (r.generate ws).2 = .ok text ↔ ∃ document settings commandLine,
    r.prepare ws = .ok (document, settings) ∧
      (line ws r.value = .ok commandLine ∨ showsLine settings r.format = false) ∧
      (generateWith document settings r.format commandLine).outcome = .ok text
  := by
  unfold generate
  cases r.prepare ws with
  | error e => simp
  | ok both =>
    obtain ⟨document, settings⟩ := both
    simp only [Except.ok.injEq, Prod.mk.injEq, ↓existsAndEq, true_and]
    cases line ws r.value with
    | ok commandLine =>
      simp only [mapError_eq_ok, Except.ok.injEq]
      constructor
      · intro yields
        exact ⟨commandLine, .inl rfl, yields⟩
      · rintro ⟨other, rfl | hidden, yields⟩
        · exact yields
        · rwa [generateWith_eq_of_not_showsLine hidden commandLine other]
    | error e =>
      -- Without a command line, there is a text only if none is shown in it.
      cases shows : showsLine settings r.format with
      | true =>
        simp only [if_true, reduceCtorEq, Bool.true_eq_false, or_self, false_and, exists_false,
          iff_false]
        cases (generateWith document settings r.format "").outcome <;>
          simp [Except.mapError, Except.bind]
      | false =>
        simp only [Bool.false_eq_true, if_false, mapError_eq_ok, reduceCtorEq, or_true, true_and]
        constructor
        · intro yields
          exact ⟨"", yields⟩
        · rintro ⟨commandLine, yields⟩
          rwa [generateWith_eq_of_not_showsLine shows "" commandLine]

/-- A conversion has a result only if a namespace is chosen. -/
theorem isSet_of_generateWith
    {f : Format} {commandLine : String}
    (h : (generateWith document settings f commandLine).outcome = .ok text) :
  settings.namespaceName.isSet = true
  := by
  obtain ⟨ms, inferred, -⟩ := Report.bind_outcome_eq_ok.mp h
  by_contra unset
  rw [inferWith, if_pos (by simp [unset]), Report.fail_outcome] at inferred
  simp at inferred

/-- A line break at the end does not bear on the encoding. -/
theorem isEncodable_endLine (text : String) :
  Text.isEncodable (endLine text) = Text.isEncodable text
  := by
  have mark : Text.isEncodable "\n" = true := by decide
  unfold endLine
  split
  · rfl
  · rw [Text.isEncodable_append, mark, Bool.and_true]

/-- A request without a text changes nothing. -/
theorem carryOut_of_generate_error
    {e : CommandError} (h : (r.generate ws).2 = .error e) :
  (r.carryOut ws).2 = (ws, .error e)
  := by
  unfold carryOut
  split
  next generated => simp_all
  next generated => simp_all

theorem carryOut_of_generate_ok
    (h : (r.generate ws).2 = .ok text) :
  (r.carryOut ws).2 = r.write ws text
  := by
  unfold carryOut
  split
  next generated => simp_all
  next generated => simp_all

/-- A draft is delivered if its text has an encoding.  Else its output is emptied. -/
theorem carryOut_of_draft (d : Draft ws r) :
  (r.carryOut ws).2 =
    if Text.isEncodable d.text then (d.delivered, .ok ())
    else (d.emptied, .error (.access .unencodable))
  := by
  have yields : (r.generate ws).2 = .ok d.text :=
    generate_eq_ok.mpr ⟨d.document, d.settings, d.commandLine,
      prepare_eq_ok.mpr ⟨d.isDocument, d.config, d.fileSettings, d.isConfig, d.isFileSettings, rfl,
        isSet_of_generateWith d.isText⟩, d.isLine, d.isText⟩
  rw [carryOut_of_generate_ok yields, write, d.isOutput]
  simp only [Workspace.write_of_opens d.opens, isEncodable_endLine]
  split <;> rfl

/-- A request without a draft changes nothing. -/
theorem carryOut_of_isEmpty (h : IsEmpty (Draft ws r)) :
  ∃ e, (r.carryOut ws).2 = (ws, .error e)
  := by
  cases generated : (r.generate ws).2 with
  | error e => exact ⟨e, carryOut_of_generate_error generated⟩
  | ok text =>
    obtain ⟨document, _, commandLine, prepared, isLine, isText⟩ := generate_eq_ok.mp generated
    obtain ⟨isDocument, config, s, isConfig, isFileSettings, rfl, -⟩ := prepare_eq_ok.mp prepared
    rw [carryOut_of_generate_ok generated]
    cases isOutput : r.output with
    | none => exact ⟨_, by simp only [write, isOutput]; rfl⟩
    | some output =>
      have closed : ¬ ws.Opens output := fun opens => h.false {
        document, config, fileSettings := s, commandLine, text, output, isDocument, isConfig,
        isFileSettings, isLine, isText, isOutput, opens }
      obtain ⟨e, written⟩ := Workspace.write_of_not_opens closed (endLine text)
      simp only [write, isOutput, written]
      exact ⟨_, rfl⟩

end Request

/-! ### Drafts of requests -/

namespace Draft

variable {ws : Workspace} {r : Request} (d : Draft ws r)

/-- Options count before the last field of a name, and this before the default. -/
theorem get?_settings
    (single : "__dict__" ∉ d.config.map Prod.fst) {name : String} {default : Json}
    (h : ({} : Settings).toJson.get? name = some default) :
  d.settings.toJson.get? name =
    some (((r.setting? name).or (d.config.reverse.lookup name)).getD default)
  := by
  rw [settings, Request.get?_overrideSettings, Settings.get?_ofFields d.isFileSettings single, h]
  cases r.setting? name <;> rfl

/-- A definitions path without segments asks for the definitions to be looked for. -/
theorem definitionsSegments_settings
    {path : String} (given : r.definitionsPath = some path)
    (empty : Request.pathSegments path = []) :
  d.settings.definitionsSegments = .ok []
  := by
  have isEmpty : d.settings.definitionsPath = some (.array []) := by
    simp [settings, Request.overrideSettings, Request.override, given, empty]
  simp [Settings.definitionsSegments, isEmpty]

end Draft

/-! ### Runs -/

namespace Run

/-- A failure is reported by an exit code other than zero. -/
theorem exitCode_failed
    (ws : Workspace) (lines : String) (e : CommandError) :
  (failed ws lines e).exitCode ≠ 0
  := by
  unfold failed
  split
  · simp
  · split <;> simp
  · simp

/-- A failure is reported without a change of the workspace. -/
theorem workspace_failed
    (ws : Workspace) (lines : String) (e : CommandError) :
  (failed ws lines e).workspace = ws
  := by
  unfold failed
  split
  · rfl
  · split <;> rfl
  · rfl

/-- A request whose draft has an encoding succeeds and delivers it. -/
theorem ofRequest_of_isEncodable
    {ws : Workspace} {r : Request} {d : Draft ws r} (h : Text.isEncodable d.text = true) :
  (ofRequest ws r).exitCode = 0 ∧ (ofRequest ws r).workspace = d.delivered
  := by
  have carried := Request.carryOut_of_draft d
  rw [if_pos h] at carried
  simp [ofRequest, carried]

/-- A request whose draft has none fails and empties its output. -/
theorem ofRequest_of_not_isEncodable
    {ws : Workspace} {r : Request} {d : Draft ws r} (h : Text.isEncodable d.text = false) :
  (ofRequest ws r).exitCode ≠ 0 ∧ (ofRequest ws r).workspace = d.emptied
  := by
  have carried := Request.carryOut_of_draft d
  rw [if_neg (by simp [h])] at carried
  simp [ofRequest, carried, exitCode_failed, workspace_failed]

/-- A request without a draft fails and changes nothing. -/
theorem ofRequest_of_isEmpty
    {ws : Workspace} {r : Request} (h : IsEmpty (Draft ws r)) :
  (ofRequest ws r).exitCode ≠ 0 ∧ (ofRequest ws r).workspace = ws
  := by
  obtain ⟨e, carried⟩ := Request.carryOut_of_isEmpty h
  simp [ofRequest, carried, exitCode_failed, workspace_failed]

/-- A request succeeds exactly if it has a draft with an encoding. -/
theorem ofRequest_succeeds
    {ws after : Workspace} {r : Request} :
  (ofRequest ws r).exitCode = 0 ∧ (ofRequest ws r).workspace = after ↔
    ∃ d : Draft ws r, Text.isEncodable d.text = true ∧ d.delivered = after
  := by
  constructor
  · rintro ⟨succeeds, rfl⟩
    obtain empty | ⟨⟨d⟩⟩ := isEmpty_or_nonempty (Draft ws r)
    · exact absurd succeeds (ofRequest_of_isEmpty empty).1
    · cases encodable : Text.isEncodable d.text with
      | true => exact ⟨d, encodable, (ofRequest_of_isEncodable encodable).2.symm⟩
      | false => exact absurd succeeds (ofRequest_of_not_isEncodable encodable).1
  · rintro ⟨d, encodable, rfl⟩
    exact ofRequest_of_isEncodable encodable

/-- A request fails exactly if it has a draft without an encoding or no draft. -/
theorem ofRequest_fails
    {ws after : Workspace} {r : Request} :
  (ofRequest ws r).exitCode ≠ 0 ∧ (ofRequest ws r).workspace = after ↔
    (∃ d : Draft ws r, Text.isEncodable d.text = false ∧ d.emptied = after) ∨
      IsEmpty (Draft ws r) ∧ ws = after
  := by
  constructor
  · rintro ⟨fails, rfl⟩
    obtain empty | ⟨⟨d⟩⟩ := isEmpty_or_nonempty (Draft ws r)
    · exact .inr ⟨empty, (ofRequest_of_isEmpty empty).2.symm⟩
    · cases encodable : Text.isEncodable d.text with
      | true => exact absurd (ofRequest_of_isEncodable encodable).1 fails
      | false => exact .inl ⟨d, encodable, (ofRequest_of_not_isEncodable encodable).2.symm⟩
  · rintro (⟨d, encodable, rfl⟩ | ⟨empty, rfl⟩)
    · exact ofRequest_of_not_isEncodable encodable
    · exact ofRequest_of_isEmpty empty

end Run

/-- A run shows the help text, carries out the request of its words, or fails when these make
none. -/
theorem run_cases
    (ws : Workspace) (words : List String) :
  AsksHelp words ∧ run ws words = .help ws ∨
    ¬ AsksHelp words ∧
      ((∃ r, (∀ r', Requests ws words r' ↔ r' = r) ∧ run ws words = .ofRequest ws r) ∨
        ∃ e, (∀ r, ¬ Requests ws words r) ∧ run ws words = .failed ws "" e)
  := by
  unfold run AsksHelp Requests
  cases Selection.ofWords words with
  | error e => exact .inr ⟨by simp, .inr ⟨_, by simp, rfl⟩⟩
  | ok s =>
    cases help : s.isOn .help with
    | true => simp [help]
    | false =>
      right
      cases request : s.request? ws with
      | error e => exact ⟨by simp [help], .inr ⟨e, by simp [request], by simp [help, request]⟩⟩
      | ok r =>
        exact ⟨by simp [help], .inl ⟨r, by simp [request, eq_comm], by simp [help, request]⟩⟩

/-- A directory with a document, settings, and an output of an earlier run. -/
def orderDesk : Workspace :=
  { here := ["work"]
    directories := [[], ["work"]]
    files :=
      [(["work", "order.json"],
          "\x7b\"properties\": \x7b\"count\": \x7b\"type\": \"integer\"\x7d\x7d\x7d"),
        (["work", "settings.json"],
          "\x7b\"namespace\": \"org.example\", \"add_generation_comment\": false\x7d"),
        (["work", "order.cto"], "namespace org.old\n")] }

/-- Words that choose a namespace, the settings, and no place for the definitions. -/
def orderWords (namespaceName : String) : List String :=
  ["-c", "settings.json", "--definitions-path=/", "-n", namespaceName, "order.json", "order.cto"]

/-- A directory with a document in which a key holds a lone surrogate, settings, and an output of
an earlier run. -/
def brokenDesk : Workspace :=
  { here := ["work"]
    directories := [[], ["work"]]
    files :=
      [(["work", "schema.json"],
          "\x7b\"properties\": \x7b\"a\\ud800\": \x7b\"type\": \"string\"\x7d\x7d\x7d"),
        (["work", "settings.json"],
          "\x7b\"namespace\": \"org.acme\", \"add_generation_comment\": false\x7d"),
        (["work", "model.cto"], "namespace org.old\n")] }

/-- Words that choose the settings. -/
def brokenWords : List String := ["-c", "settings.json", "schema.json", "model.cto"]

/-- The text of a document with a lone surrogate has no encoding. -/
theorem run_brokenDesk :
  run brokenDesk brokenWords =
    { exitCode := 1
      silent := some (.access .unencodable)
      workspace := brokenDesk.put ["work", "model.cto"] "" }
  := by
  decide +kernel

end Command

end ConceptModel

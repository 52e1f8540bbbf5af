import ConceptModel.Proofs.Inference.Naming
import ConceptModel.Proofs.Printer.Faithful
import ConceptModel.Proofs.Printer.Patterns

/-!
# Texts of documents

What a document can do to the Concerto text of its models.  Names of declarations, types,
values and decorators never leave their place, and neither do default values; but the key of
a property and a pattern are printed as they are.
-/

namespace ConceptModel

open Printer Printer.Cto

/-- The fields of a model. -/
def Model.fields (m : Model) : List Field := m.declarations.flatMap Declaration.fields

/-- How many lines a declaration takes. -/
def Declaration.lineCount : Declaration → Nat
  | concept _ _ fields => 3 + fields.length + (fields.flatMap Field.decorators).length
  | enumeration _ values => 3 + values.length
  | scalar _ decorators => 2 + decorators.length
  | plain _ => 1

/-- How many lines declarations take. -/
def lineCounts (ds : List Declaration) : Nat := ds.foldr (fun d count => d.lineCount + count) 0

/-- The lines of a model under a comment. -/
def Printer.Cto.linesUnder (comment : Option String) (m : Model) : List String :=
  (comment.map ("// " ++ ·)).toList ++ modelLines m

namespace Printer.Cto

/-- Fields take a line each and one for each decorator. -/
theorem length_fields (fs : List Field) :
  (fs.flatMap field).length = fs.length + (fs.flatMap Field.decorators).length
  := by
  induction fs with
  | nil => rfl
  | cons f fs ih =>
    rw [List.flatMap_cons, List.flatMap_cons, List.length_append, List.length_append, ih]
    simp only [field, List.length_append, List.length_map, List.length_cons, List.length_nil]
    omega

/-- Declarations take as many lines as are counted for them. -/
theorem length_declarations (ds : List Declaration) :
  (ds.flatMap declaration).length = lineCounts ds
  := by
  induction ds with
  | nil => rfl
  | cons d ds ih =>
    rw [List.flatMap_cons, List.length_append, ih]
    congr 1
    cases d with
    | concept =>
      simp only [declaration, Declaration.lineCount, List.length_append, List.length_cons,
        List.length_nil, length_fields]
      omega
    | enumeration | scalar => simp [declaration, Declaration.lineCount]; omega
    | plain => rfl

/-- The number of lines of a model. -/
theorem length_linesUnder
    (comment : Option String) (m : Model) :
  (linesUnder comment m).length
    = comment.toList.length + 1 + m.imports.length + lineCounts m.declarations
  := by
  simp only [linesUnder, modelLines, List.length_append, length_declarations, List.length_map,
    List.length_singleton]
  cases comment with
  | none => simp
  | some => simp; omega

/-- A model is printed line by line, without line breaks at the end. -/
theorem model_eq (comment : Option String) (m : Model) :
  model comment m = trimLineBreaks (lines (linesUnder comment m))
  := by cases comment <;> simp [model, linesUnder, commentLine, lines]

theorem models_singleton
    (comment : Option String) (m : Model) (metaNamespace : String) :
  Cto.models comment { models := [m], metaNamespace := metaNamespace } = model comment m
  := by rw [Cto.models, List.map_singleton, joinModels, String.intercalate_singleton]

/-- A text whose declarations say something has the lines of its model just when none of
them is broken. -/
theorem splitAll_model_iff
    {m : Model} (concrete : ∀ d ∈ m.declarations, d.Concrete) (comment : Option String) :
  Text.splitAll '\n' (model comment m).toList = (linesUnder comment m).map String.toList
    ↔ (∀ c ∈ comment, Solid c) ∧ m.Solid
  := by
  have mark : Solid "// " := by decide
  have solid : Unbroken (linesUnder comment m) ↔ (∀ c ∈ comment, Solid c) ∧ m.Solid := by
    rw [linesUnder, unbroken_append, unbroken_modelLines]
    cases comment <;> simp [mark]
  have filled : "" ∉ (comment.map ("// " ++ ·)).toList := by cases comment <;> simp
  have trimmed := rdropWhile_modelLines filled m
  rw [m.shown_eq_self concrete] at trimmed
  rw [← solid, model_eq]
  constructor
  · intro whole l mem
    have part : l.toList ∈
        Text.splitAll '\n' (trimLineBreaks (lines (linesUnder comment m))).toList :=
      whole ▸ List.mem_map_of_mem mem
    exact Text.notMem_of_mem_splitAll part
  · intro unbroken
    rw [splitAll_trimLineBreaks unbroken]
    · rw [linesUnder, trimmed]
    · rw [linesUnder, trimmed, modelLines]
      simp

/-- The line of a field with a pattern, cut where the pattern begins. -/
theorem fieldLine_regex
    {f : Field} {pattern : Json} {flags : String} (h : f.validator = some (.regex pattern flags)) :
  fieldLine f
    = fieldLine { f with validator := none, isOptional := false } ++ " regex=/"
      ++ (pattern.plain ++ "/" ++ flags ++ if f.isOptional then " optional" else "")
  := by
  rw [← String.toList_inj]
  cases default : f.defaultValue <;> cases optional : f.isOptional <;>
    simp [fieldLine, fieldType, modifiers, validator, h, default, optional]

end Printer.Cto

namespace Inference

open Relation Text

variable {x y : Visit} {f : Field}

/-! ### Decorators -/

/-- The names of the decorators that stand for what is no type of its own. -/
def decoratorNames : List String := ["StringifiedJson", "StringifiedUnionType"]

/-- Whether only known decorators are forced upon the next field. -/
def Overrides.Known (o : Overrides) : Prop :=
  ∀ decorators ∈ o.decorators, ∀ d ∈ decorators, d.name ∈ decoratorNames

/-- Known decorators are handed on. -/
theorem known_of_handsOn
    (h : HandsOn x y) (known : x.2.overrides.Known) :
  y.2.overrides.Known
  := by
  cases h with
  | deferral | inline => simp [Overrides.Known, Context.bare]
  | union => simp [Overrides.Known, stringifiedUnion, decoratorNames]
  | _ => exact known

theorem known_of_reached
    (h : ReflTransGen HandsOn x y) (known : x.2.overrides.Known) :
  y.2.overrides.Known
  := by
  induction h with
  | refl => exact known
  | tail _ step ih => exact known_of_handsOn step ih

/-- The decorators of a field are forced upon it, or say that it holds any value. -/
theorem name_decorator_of_builds
    (h : Builds y f) (known : y.2.overrides.Known) :
  ∀ d ∈ f.decorators, d.name ∈ decoratorNames
  := by
  have forced {c : Context} (known : c.overrides.Known) :
      ∀ d ∈ c.overrides.decorators.getD [], d.name ∈ decoratorNames := by
    intro d mem
    cases held : c.overrides.decorators with
    | none => simp [held] at mem
    | some decorators => exact known decorators held d (by simpa [held] using mem)
  cases h with
  | listed | referred | inline => exact forced known
  | freeform => simp [stringifiedJson, decoratorNames]
  | primitive _ _ built =>
    obtain ⟨type, -, rfl⟩ := primitiveField_outcome_eq_ok.mp built
    exact forced known

/-- A scalar that is announced has known decorators only. -/
theorem decorator_scalar_of_announces
    {d : Declaration} {name : String} {decorators : List Decorator} (h : Announces x d)
    (isScalar : d = .scalar name decorators) :
  ∀ e ∈ decorators, e.name ∈ decoratorNames
  := by
  cases h with
  | scalar =>
    cases isScalar
    simp [stringifiedJson, decoratorNames]
  | _ => cases isScalar

/-- What is announced is a concept, an enumeration or a scalar. -/
theorem concrete_of_announces
    {d : Declaration} (h : Announces x d) :
  d.Concrete
  := by cases h <;> trivial

/-! ### Patterns -/

/-- The pattern of a field is that of its schema, without flags. -/
theorem pattern_of_builds
    {pattern : Json} {flags : String} (h : Builds y f)
    (held : f.validator = some (.regex pattern flags)) :
  y.1.body.get? "pattern" = some pattern ∧ flags = ""
  := by
  cases h with
  | listed | referred | inline | freeform => simp [FieldBase.field] at held
  | @primitive v _ _ _ _ _ built =>
    obtain ⟨type, -, rfl⟩ := primitiveField_outcome_eq_ok.mp built
    simp only [Body.validator?] at held
    obtain ⟨truthy, rfl, rfl⟩ : ((Body.ofJson v).getD "pattern").isTruthy = true ∧
        (Body.ofJson v).getD "pattern" = pattern ∧ "" = flags := by
      split_ifs at held with _ _ rule
      · simp at held
      · simp at held
      · simp only [Option.some.injEq, Validator.regex.injEq] at held
        exact ⟨(Bool.and_eq_true_iff.mp rule).2, held⟩
    have isSet : (Body.ofJson v).getD "pattern" ≠ .null := by
      intro unset
      simp [unset, Json.isTruthy] at truthy
    have isObject := Body.object_ofJson isSet (by decide)
    refine ⟨?_, rfl⟩
    rw [← isObject]
    exact Body.get?_of_getD_ne isSet

/-! ### Documents -/

/-- The known decorators have names on one line. -/
theorem solid_of_mem_decoratorNames
    {name : String} (h : name ∈ decoratorNames) :
  Solid name
  := by
  have all : ∀ name ∈ decoratorNames, Solid name := by decide
  exact all name h

/-- The field is built by a visit on the way from the document. -/
def BuiltBy (document : Json) (c : Context) (y : Visit) (f : Field) : Prop :=
  ReflTransGen HandsOn (⟨.document, document, []⟩, c) y ∧ Builds y f

/-- Each field of what a document yields is built by a visit of it. -/
theorem Yields.builtBy
    {document : Json} {c : Context} {found : List Declaration} (h : Yields document c found)
    {d : Declaration} (mem : d ∈ found) (held : f ∈ d.fields) :
  ∃ y, BuiltBy document c y f
  := by
  obtain ⟨x, _, y, step, -, reached, builds⟩ := h.built mem held
  exact ⟨y, .head step reached, builds⟩

/-- Declarations that are found in a document break a line only by the names and the patterns
of their fields. -/
theorem Yields.solid_iff
    {document : Json} {c : Context} {found : List Declaration} (h : Yields document c found)
    (known : c.overrides.Known) {d : Declaration} (mem : d ∈ found) :
  d.Solid ↔ ∀ f ∈ d.fields, Solid f.name ∧ ∀ v ∈ f.validator, v.Solid
  := by
  have named := h.wellNamed mem
  have fields : ∀ f ∈ d.fields, f.Solid ↔ Solid f.name ∧ ∀ v ∈ f.validator, v.Solid := by
    intro f held
    constructor
    · intro solid
      exact ⟨solid.name, solid.validator⟩
    · rintro ⟨name, validator⟩
      obtain ⟨y, reached, builds⟩ := h.builtBy mem held
      have decorators := name_decorator_of_builds builds (known_of_reached reached known)
      refine ⟨name, ?_, fun e held => solid_of_mem_decoratorNames (decorators e held), validator⟩
      cases type : f.type with
      | declared type' => exact solid_of_isIdentifier (named.types f held type' type)
      | string | boolean | double | integer | dateTime => decide
  have name : Solid d.name := solid_of_isIdentifier named.name
  have values : ∀ value ∈ d.values, Solid value :=
    fun value mem => solid_of_isIdentifier (named.values value mem)
  cases d with
  | concept =>
    constructor
    · rintro ⟨-, all⟩ f held
      exact (fields f held).mp (all f held)
    · intro all
      exact ⟨name, fun f held => (fields f held).mpr (all f held)⟩
  | enumeration => exact ⟨fun _ _ held => absurd held List.not_mem_nil, fun _ => ⟨name, values⟩⟩
  | scalar name' decorators =>
    obtain ⟨x, -, announces⟩ := h.exists_source mem
    have decorators := decorator_scalar_of_announces announces rfl
    exact ⟨fun _ _ held => absurd held List.not_mem_nil,
      fun _ => ⟨name, fun e held => solid_of_mem_decoratorNames (decorators e held)⟩⟩
  | plain => exact ⟨fun _ _ held => absurd held List.not_mem_nil, fun _ => trivial⟩

/-- The text of a document has the lines of its model just when no line break stands in the
comment, in the namespace, in the name of a field or in a pattern; then their number is that
of the comment, the namespace and the lines of each declaration.  The line of a field with a
pattern goes on with the pattern of its schema after the first slash; reading up to the first
slash that no backslash precedes gives it back just when it is closed. -/
theorem printed_of_inferModels
    {document namespaceName : Json} {metaNamespace : String} {path : List Json} {ms : Models}
    (inferred : (inferModels document namespaceName metaNamespace path).outcome = .ok ms)
    (comment : Option String) :
  ∃ m given, ms.models = [m] ∧ segments? path = some given ∧
    (splitAll '\n' (Cto.models comment ms).toList = (linesUnder comment m).map String.toList ↔
      (∀ c ∈ comment, Solid c) ∧ Solid namespaceName.plain ∧
        ∀ f ∈ m.fields, Solid f.name ∧ ∀ v ∈ f.validator, v.Solid) ∧
    (linesUnder comment m).length
      = comment.toList.length + 1 + lineCounts m.declarations ∧
    ∀ f ∈ m.fields, ∀ pattern flags, f.validator = some (.regex pattern flags) →
      ∃ y rest, BuiltBy document (.start namespaceName metaNamespace given) y f ∧
        y.1.body.get? "pattern" = some pattern ∧
        fieldLine f = fieldLine { f with validator := none, isOptional := false }
          ++ " regex=/" ++ rest ∧
        ((∃ p, pattern = .string p ∧ upToSlash '/' rest.toList = some p.toList) ↔
          ∃ p, pattern = .string p ∧ Closed p.toList)
  := by
  obtain ⟨given, results, held, reads, rfl⟩ := exists_reads_of_inferModels inferred
  obtain ⟨found, yields, rfl⟩ := yields_of_reads reads
  have known : (Context.start namespaceName metaNamespace given).overrides.Known := by
    simp [Overrides.Known, Context.start]
  have kept {d : Declaration} (mem : d ∈ distinctDeclarations found) :=
    mem_of_mem_distinctDeclarations mem
  have concrete : ∀ d ∈ distinctDeclarations found, d.Concrete := by
    intro d mem
    obtain ⟨x, -, announces⟩ := yields.exists_source (kept mem)
    exact concrete_of_announces announces
  refine ⟨{ namespaceName := namespaceName, declarations := distinctDeclarations found }, given,
    rfl, held, ?_, ?_, ?_⟩
  · have single : modelsOf (.one (.models (((Context.start namespaceName metaNamespace
        given).enter document).modelsWith (distinctDeclarations found)))) =
          ⟨[{ namespaceName := namespaceName, declarations := distinctDeclarations found }],
            metaNamespace⟩ := rfl
    rw [single, models_singleton, splitAll_model_iff concrete comment]
    apply and_congr_right'
    constructor
    · rintro ⟨namespaceName, -, declarations⟩
      refine ⟨namespaceName, ?_⟩
      intro f inside
      obtain ⟨d, mem, inside⟩ := List.mem_flatMap.mp inside
      exact (yields.solid_iff known (kept mem)).mp (declarations d mem) f inside
    · rintro ⟨namespaceName, fields⟩
      refine ⟨namespaceName, by simp, ?_⟩
      intro d mem
      apply (yields.solid_iff known (kept mem)).mpr
      intro f inside
      exact fields f (List.mem_flatMap.mpr ⟨d, mem, inside⟩)
  · exact length_linesUnder comment _
  · intro f inside pattern flags validator
    obtain ⟨d, mem, inside⟩ := List.mem_flatMap.mp inside
    obtain ⟨y, built⟩ := yields.builtBy (kept mem) inside
    obtain ⟨source, rfl⟩ := pattern_of_builds built.2 validator
    refine ⟨y, _, built, source, fieldLine_regex validator, ?_⟩
    apply exists_congr
    intro p
    apply and_congr_right
    rintro rfl
    rw [← upToSlash_eq_iff _ (if f.isOptional then " optional" else "").toList]
    simp [Json.plain]

/-- A form with default values and decorators of any text, and a closed pattern. -/
def signUpForm : Json :=
  .object
    [("properties", .object
      [("nick name", .object
          [("type", .string "string"), ("pattern", .string "^[a-z]\\/[a-z]$"),
            ("default", .string "a\n/ optional")]),
        ("born", .object [("type", .array [.string "string", .string "integer"])]),
        ("role", .object [("enum", .array [.string "a\nb", .number (.int 2)])])])]

/-- The model of the form. -/
def signUpModel : Model :=
  { namespaceName := .string "org.acme"
    declarations :=
      [.concept "Root" false
        [{ name := "nick name", type := .string, isOptional := true
           defaultValue := some (.text "a\n/ optional")
           validator := some (.regex (.string "^[a-z]\\/[a-z]$") "") },
          { name := "born", type := .string, isOptional := true
            decorators := [⟨"StringifiedUnionType", ["[string,integer]"]⟩] },
          { name := "role", type := .declared "Root$_properties$_role", isOptional := true }],
        .enumeration "Root$_properties$_role" ["a_b", "_2"]] }

theorem printed_of_inferModels_signUpForm :
  (inferModels signUpForm (.string "org.acme") defaultMetaNamespace []).outcome =
      .ok { models := [signUpModel] } ∧
    splitAll '\n' (Cto.models none { models := [signUpModel] }).toList
      = (linesUnder none signUpModel).map String.toList
  := by
  have inferred : (inferModels signUpForm (.string "org.acme") defaultMetaNamespace []).outcome =
      .ok { models := [signUpModel] } :=
    Report.outcome_eq_ok_of_toOption (by decide +kernel)
  obtain ⟨m, given, only, -, printed, -⟩ := printed_of_inferModels inferred none
  obtain rfl := List.singleton_inj.mp only
  use inferred
  apply printed.mpr
  use (by simp), (by decide)
  have names : ∀ f ∈ signUpModel.fields, Solid f.name := by decide +kernel
  intro f mem
  refine ⟨names f mem, ?_⟩
  simp only [Model.fields, signUpModel, List.flatMap_cons, List.flatMap_nil, List.append_nil,
    Declaration.fields, List.mem_cons, List.not_mem_nil, or_false] at mem
  obtain rfl | rfl | rfl := mem
  · simp [Validator.Solid, Json.plain]
    decide
  · simp
  · simp

/-- A schema with a line break in a key, and with slashes in a pattern. -/
def brokenKeys : Json :=
  .object
    [("properties", .object
      [("first\nlast", .object [("type", .string "string")]),
        ("path", .object [("type", .string "string"), ("pattern", .string "^/a/b$")])])]

/-- The field of the pattern with slashes. -/
def slashedField : Field :=
  { name := "path", type := .string, isOptional := true
    validator := some (.regex (.string "^/a/b$") "") }

/-- The model of the schema with a line break in a key. -/
def brokenModel : Model :=
  { namespaceName := .string "org.acme"
    declarations := [.concept "Root" false
      [{ name := "first\nlast", type := .string, isOptional := true }, slashedField]] }

/-- A line break in a key breaks the line of its field, and a pattern with slashes ends at the
first of them. -/
theorem printed_brokenKeys :
  (inferModels brokenKeys (.string "org.acme") defaultMetaNamespace []).outcome.toOption
      = some { models := [brokenModel] } ∧
    (linesUnder none brokenModel).length = 6 ∧
    (splitAll '\n' (model none brokenModel).toList).length = 7 ∧
    fieldLine slashedField = fieldLine { slashedField with validator := none, isOptional := false }
      ++ " regex=/" ++ "^/a/b$/ optional" ∧
    upToSlash '/' "^/a/b$/ optional".toList = some ['^']
  := by decide +kernel

end Inference

end ConceptModel

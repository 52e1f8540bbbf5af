import ConceptModel.Proofs.Inference.Printed
import ConceptModel.Proofs.Printer.Tables

/-!
# Tables of documents

What a document can do to the tables of its Markdown text.  Values of enumerations, bounds and
names of types never leave their cell, but the name of a field and a pattern are put into theirs
as they are: `tables_of_inferModels`.
-/

namespace ConceptModel

open Text Printer Printer.Markdown

/-! ### Identifiers -/

theorem Text.Normal.bar_notMem
    {cs : List Char} (h : Normal cs) :
  '|' ∉ cs
  := by
  have foreign : isIdentifierPart '|' = false := by decide +kernel
  have other {c : Char} (part : isIdentifierPart c = true) : '|' ≠ c := by
    rintro rfl
    simp [foreign] at part
  induction h with
  | nil => exact List.not_mem_nil
  | escape ha hb hc hd _ ih =>
    simp only [List.mem_cons, not_or]
    exact ⟨by decide, by decide, other (isIdentifierPart_of_isHexDigit ha),
      other (isIdentifierPart_of_isHexDigit hb), other (isIdentifierPart_of_isHexDigit hc),
      other (isIdentifierPart_of_isHexDigit hd), ih⟩
  | char part _ ih =>
    rw [List.mem_cons, not_or]
    exact ⟨other part, ih⟩

theorem clear_of_isIdentifier
    {s : String} (h : IsIdentifier s) :
  Clear s
  := by
  apply clear_of_notMem (Cto.solid_of_isIdentifier h)
  rw [← h.normalizeIdentifier, normalizeIdentifier, String.toList_ofList]
  exact (normal_normalizeChars _).bar_notMem

/-! ### Texts -/

namespace Printer.Markdown

/-- The lines of a model under a comment. -/
def linesUnder (comment : Option String) (m : Model) : List String :=
  (comment.map fun text => "<!-- " ++ text ++ " -->\n").toList ++ modelLines m

theorem models_singleton
    (comment : Option String) (m : Model) (metaNamespace : String) :
  Markdown.models comment { models := [m], metaNamespace := metaNamespace }
    = lines (linesUnder comment m)
  := by
  rw [Markdown.models, List.map_singleton, joinModels, String.intercalate_singleton]
  cases comment <;> simp [model, linesUnder, commentLine, lines]

/-- What is printed of a declaration stands in the text of its model, line by line. -/
theorem flatMap_linesOf_infix
    {m : Model} {d : Declaration} (mem : d ∈ m.declarations) {ls : List String}
    (printed : ls <:+ declaration m d) (comment : Option String) :
  ls.flatMap linesOf <:+: linesOf (lines (linesUnder comment m))
  := by
  have inside : declaration m d <:+: m.declarations.flatMap (declaration m) := by
    rw [List.flatMap]
    exact List.infix_of_mem_flatten (List.mem_map_of_mem mem)
  have whole : ls <:+: linesUnder comment m := by
    rw [linesUnder, modelLines]
    exact printed.isInfix.trans
      (inside.trans ((List.suffix_append _ _).trans (List.suffix_append _ _)).isInfix)
  obtain ⟨front, back, split⟩ := whole
  rw [linesOf_lines, ← split, List.flatMap_append, List.flatMap_append, List.append_assoc _ _ [""]]
  exact List.infix_append _ _ _

end Printer.Markdown

namespace Inference

open Relation

variable {x y : Visit} {f : Field}

/-! ### Fields -/

/-- The name of a field is the last segment of the path of its property, unless another one is
forced upon it. -/
theorem name_of_builds
    (h : Builds y f) :
  f.name = y.2.overrides.name.getD (nameOf y.1.path)
  := by
  cases h with
  | listed | referred | inline | freeform => rfl
  | primitive _ _ built =>
    obtain ⟨type, -, rfl⟩ := primitiveField_outcome_eq_ok.mp built
    rfl

/-- Whether a decorator lists the types of a schema on the way from a visit. -/
def ListsTypes (start : Visit) (d : Decorator) : Prop :=
  ∃ z types, ReflTransGen HandsOn start z ∧ (Body.ofJson z.1.body).getD "type" = .array types ∧
    d = stringifiedUnion types

/-- What is forced upon the next field are only decorators that list types. -/
theorem listsTypes_of_reached
    {start : Visit} (free : start.2.overrides.decorators = none)
    (h : ReflTransGen HandsOn start x) :
  ∀ d ∈ x.2.overrides.decorators.getD [], ListsTypes start d
  := by
  induction h with
  | refl => simp [free]
  | tail reached step ih =>
    cases step with
    | deferral | inline => simp [Context.bare]
    | union name rule =>
      intro d mem
      exact ⟨_, _, reached, Body.type_of_propertyRule rule, List.mem_singleton.mp mem⟩
    | _ => exact ih

/-- The decorators of a field say that it holds any value, or list the types of a schema on the
way to it. -/
theorem decorator_of_builds
    {start : Visit} (forced : ∀ d ∈ y.2.overrides.decorators.getD [], ListsTypes start d)
    (h : Builds y f) :
  ∀ d ∈ f.decorators, d = stringifiedJson ∨ ListsTypes start d
  := by
  intro d mem
  cases h with
  | listed | referred | inline => exact .inr (forced d mem)
  | freeform => exact .inl (List.mem_singleton.mp mem)
  | primitive _ _ built =>
    obtain ⟨type, -, rfl⟩ := primitiveField_outcome_eq_ok.mp built
    exact .inr (forced d mem)

/-! ### Rows -/

/-- The list of types of a union is clear just in case each of them is. -/
theorem clear_stringifiedUnion_iff
    {types : List Json} :
  (∀ a ∈ (stringifiedUnion types).arguments, Clear a) ↔ ∀ t ∈ types, Clear t.bare
  := by
  have opening : Mark "[" := by decide
  have closing : Mark "]" := by decide
  have comma : Mark "," := by decide
  simp [stringifiedUnion, closing.clear_after, opening.clear_before, comma.clear_intercalate]

/-- The row of a field that is built, in a model whose namespace has no bar. -/
theorem isRow_fieldRow_iff_of_builds
    {m : Model} {start : Visit} (h : Builds y f)
    (forced : ∀ d ∈ y.2.overrides.decorators.getD [], ListsTypes start d)
    (barless : '|' ∉ m.namespaceName.plain.toList) :
  IsRow 5 (fieldRow m f) ↔ Clear f.name ∧
    (∀ pattern flags, f.validator = some (.regex pattern flags) → Clear pattern.plain) ∧
    (∀ types, stringifiedUnion types ∈ f.decorators → ∀ t ∈ types, Clear t.bare) ∧
    ∀ type, f.type = .declared type → Solid m.namespaceName.plain
  := by
  rw [isRow_fieldRow_iff]
  constructor
  · intro tabular
    refine ⟨tabular.name, tabular.pattern, ?_, fun type typed => (tabular.type type typed).1.1⟩
    intro types mem
    exact clear_stringifiedUnion_iff.mp (tabular.union _ mem rfl)
  · rintro ⟨name, pattern, union, solid⟩
    refine ⟨name, ?_, ?_, pattern⟩
    · intro type typed
      exact ⟨clear_of_notMem (solid type typed) barless,
        clear_of_isIdentifier (isIdentifier_type_of_builds h typed)⟩
    · intro d mem named
      obtain rfl | ⟨_, types, -, -, rfl⟩ := decorator_of_builds forced h d mem
      · simp [stringifiedJson] at named
      · exact clear_stringifiedUnion_iff.mpr (union types mem)

/-! ### Documents -/

/-- The tables of a document stand line by line in its Markdown text.  The row of a value is always
one of two cells.  That of a field is one of five just in case no line break and no bar without a
backslash before it stands in its name, in its pattern or in the types of its union, and no line
break in the namespace of its type. -/
theorem tables_of_inferModels
    {document namespaceName : Json} {metaNamespace : String} {path : List Json} {ms : Models}
    (inferred : (inferModels document namespaceName metaNamespace path).outcome = .ok ms)
    (barless : '|' ∉ namespaceName.plain.toList) (comment : Option String) :
  ∃ m given, ms.models = [m] ∧ segments? path = some given ∧
    (∀ name isAbstract fields, .concept name isAbstract fields ∈ m.declarations →
      (fieldTable m fields).flatMap linesOf <:+: linesOf (Markdown.models comment ms) ∧
      ∀ f ∈ fields,
        (IsRow 5 (fieldRow m f) ↔ Clear f.name ∧
          (∀ pattern flags, f.validator = some (.regex pattern flags) → Clear pattern.plain) ∧
          (∀ types, stringifiedUnion types ∈ f.decorators → ∀ t ∈ types, Clear t.bare) ∧
          ∀ type, f.type = .declared type → Solid namespaceName.plain) ∧
        ∃ y, BuiltBy document (.start namespaceName metaNamespace given) y f ∧
          f.name = y.2.overrides.name.getD (nameOf y.1.path) ∧
          (∀ pattern flags, f.validator = some (.regex pattern flags) →
            y.1.body.get? "pattern" = some pattern) ∧
          ∀ d ∈ f.decorators, d = stringifiedJson ∨ ListsTypes
            (⟨.document, document, []⟩, .start namespaceName metaNamespace given) d) ∧
    ∀ name values, .enumeration name values ∈ m.declarations →
      valueTable values <:+: linesOf (Markdown.models comment ms) ∧
      ∀ value ∈ values, IsRow 2 (valueRow value)
  := by
  obtain ⟨given, results, held, reads, rfl⟩ := exists_reads_of_inferModels inferred
  obtain ⟨found, yields, rfl⟩ := yields_of_reads reads
  have kept {d : Declaration} (mem : d ∈ distinctDeclarations found) :=
    mem_of_mem_distinctDeclarations mem
  have lines : Markdown.models comment (modelsOf (.one (.models (((Context.start namespaceName
      metaNamespace given).enter document).modelsWith (distinctDeclarations found))))) =
        Printer.lines (Markdown.linesUnder comment
          { namespaceName := namespaceName, declarations := distinctDeclarations found }) :=
    Markdown.models_singleton comment _ metaNamespace
  refine ⟨{ namespaceName := namespaceName, declarations := distinctDeclarations found }, given,
    rfl, held, ?_, ?_⟩
  · intro name isAbstract fields mem
    rw [lines]
    use flatMap_linesOf_infix mem (List.suffix_append _ _) comment
    intro f inside
    obtain ⟨y, built⟩ := yields.builtBy (kept mem) inside
    have forced := listsTypes_of_reached rfl built.1
    exact ⟨isRow_fieldRow_iff_of_builds built.2 forced barless, y, built, name_of_builds built.2,
      fun pattern flags validator => (pattern_of_builds built.2 validator).1,
      decorator_of_builds forced built.2⟩
  · intro name values mem
    have rows : ∀ value ∈ values, IsRow 2 (valueRow value) := by
      intro value inside
      exact isRow_valueRow_iff.mpr
        (clear_of_isIdentifier ((yields.wellNamed (kept mem)).values value inside))
    refine ⟨?_, rows⟩
    rw [lines, ← flatMap_linesOf (unbroken_valueTable fun value inside => (rows value inside).1)]
    exact flatMap_linesOf_infix mem (List.suffix_append _ _) comment

/-- A form with a pattern, and with bars in a value and, behind a backslash, in the pattern. -/
def scaleForm (pattern : String) : Json :=
  .object
    [("properties", .object
      [("unit", .object [("type", .string "string"), ("pattern", .string pattern)]),
        ("amount", .object [("type", .array [.string "integer", .string "string"])]),
        ("mode", .object [("enum", .array [.string "net|gross", .string "tare"])])])]

/-- The field of the pattern. -/
def unitField (pattern : String) : Field :=
  { name := "unit", type := .string, isOptional := true
    validator := some (.regex (.string pattern) "") }

/-- The model of the form. -/
def scaleModel (pattern : String) : Model :=
  { namespaceName := .string "org.acme"
    declarations :=
      [.concept "Root" false
        [unitField pattern,
          { name := "amount", type := .string, isOptional := true
            decorators := [stringifiedUnion [.string "integer", .string "string"]] },
          { name := "mode", type := .declared "Root$_properties$_mode", isOptional := true }],
        .enumeration "Root$_properties$_mode" ["net_7cgross", "tare"]] }

theorem tables_of_inferModels_scaleForm :
  (inferModels (scaleForm "^kg\\|lb$") (.string "org.acme") defaultMetaNamespace []).outcome =
      .ok { models := [scaleModel "^kg\\|lb$"] } ∧
    IsRow 5 (fieldRow (scaleModel "^kg\\|lb$") (unitField "^kg\\|lb$")) ∧
    valueTable ["net_7cgross", "tare"]
      <:+: linesOf (Markdown.models none { models := [scaleModel "^kg\\|lb$"] })
  := by
  have inferred : (inferModels (scaleForm "^kg\\|lb$") (.string "org.acme") defaultMetaNamespace
      []).outcome = .ok { models := [scaleModel "^kg\\|lb$"] } :=
    Report.outcome_eq_ok_of_toOption (by decide +kernel)
  obtain ⟨m, given, only, -, concepts, enumerations⟩ :=
    tables_of_inferModels inferred (by decide) none
  obtain rfl := List.singleton_inj.mp only
  obtain ⟨-, rows⟩ := concepts "Root" false _ List.mem_cons_self
  obtain ⟨row, -⟩ := rows (unitField "^kg\\|lb$") List.mem_cons_self
  obtain ⟨table, -⟩ := enumerations _ ["net_7cgross", "tare"]
    (List.mem_cons_of_mem _ List.mem_cons_self)
  refine ⟨inferred, row.mpr ⟨by decide, ?_, ?_, ?_⟩, table⟩
  · rintro pattern flags ⟨⟩
    decide
  · simp [unitField]
  · simp [unitField]

/-- A bar in a pattern makes more cells of a row than the table has columns, although neither a
line break nor a bar stands anywhere else. -/
theorem fieldRow_scaleForm :
  (inferModels (scaleForm "^kg|lb$") (.string "org.acme") defaultMetaNamespace
      []).outcome.toOption = some { models := [scaleModel "^kg|lb$"] } ∧
    fieldRow (scaleModel "^kg|lb$") (unitField "^kg|lb$") =
      "| unit | <code>String</code> |  |  | Matches Regular Expression: \x60^kg|lb$\x60 |" ∧
    ¬ IsRow 5 (fieldRow (scaleModel "^kg|lb$") (unitField "^kg|lb$")) ∧
    IsRow 6 (fieldRow (scaleModel "^kg|lb$") (unitField "^kg|lb$"))
  := by
  decide +kernel

end Inference

end ConceptModel

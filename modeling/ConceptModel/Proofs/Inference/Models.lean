import ConceptModel.Proofs.Inference.Adequacy
import ConceptModel.Proofs.Inference.Distinct

/-!
# The models of a document

What a document with definitions yields comes from its `Parts`: from its root, and from each
of its definitions in their order.  To what depth the parts have been read does not matter:
`Parts.yields`.
-/

namespace ConceptModel.Inference

/-! ### Declarations -/

/-- The declarations among results. -/
def declarationsIn (found : Results) : List Declaration :=
  found.flatten.filterMap Found.declaration?

/-- The declarations of models. -/
def declarationsOf (ms : Models) : List Declaration := ms.models.flatMap Model.declarations

theorem declarationsOf_modelsWith
    (c : Context) (found : List Declaration) :
  declarationsOf (c.modelsWith found) = found
  := by
  simp [declarationsOf, Context.modelsWith]

theorem filterMap_declaration?_append
    {fromRoot : Results} {fields : List (String × Json)} {each : String × Json → Results} :
  (fromRoot.flatten ++ (Nested.ofList (fields.flatMap fun e => (each e).flatten)).flatten).filterMap
      Found.declaration? =
    declarationsIn fromRoot ++ fields.flatMap fun e => declarationsIn (each e)
  := by
  rw [List.filterMap_append, Nested.flatten_ofList, List.filterMap_flatMap]
  rfl

/-! ### Parts -/

/-- Finding out the name of the root causes no warnings. -/
theorem warnings_rootName
    (document : Json) :
  (rootName document).warnings = []
  := by
  unfold rootName checkDocument
  apply Report.bind_warnings_eq_nil
  · apply Report.bind_warnings_eq_nil (Report.ofExcept_warnings _)
    intro _
    apply Report.bind_warnings_eq_nil (Report.note_warnings _)
    intro _
    exact Report.ofExcept_warnings _
  · intro _
    apply Report.bind_warnings_eq_nil (Report.ofExcept_warnings _)
    intro id
    cases id with
    | some id => rfl
    | none =>
      simp only
      split <;> rfl

/-- What has been read to some depth when a document with definitions yields models. -/
structure Parts (document : Json) (c : Context) (fields : List (String × Json)) (depth : Nat)
    (root : String) (fromRoot : Results) (each : String × Json → Results) : Prop where
  named : (rootName document).outcome = .ok root
  first : (readWithin (depth + 1) ⟨.definition, document, [root]⟩ c).outcome = .ok fromRoot
  second : ∀ e ∈ fields,
    (readWithin depth ⟨.definition, e.2, c.container ++ [e.1]⟩ c).outcome = .ok (each e)

/-- The models that the parts of a document yield. -/
def Context.modelsOfParts (c : Context) (fields : List (String × Json)) (fromRoot : Results)
    (each : String × Json → Results) : Models :=
  c.modelsWith (distinctDeclarations
    (declarationsIn fromRoot ++ fields.flatMap fun e => declarationsIn (each e)))

section

variable {document namespaceName : Json} {metaNamespace : String} {given : List String}
  {fields : List (String × Json)} {depth : Nat} {c : Context}

theorem readDocument_outcome_eq_ok
    (held : (c.enter document).definitions? = some fields) {found : Results} :
  (readWithin (depth + 2) ⟨.document, document, []⟩ c).outcome = .ok found ↔
    ∃ root fromRoot each, Parts document (c.enter document) fields depth root fromRoot each ∧
      found = .one (.models ((c.enter document).modelsOfParts fields fromRoot each))
  := by
  simp only [readWithin, step, readDocument, readContainer, held, Report.bind_outcome_eq_ok,
    Report.pure_outcome, Report.note_outcome, Except.ok.injEq, readMembers,
    readEach_outcome_eq_ok]
  constructor
  · rintro ⟨root, named, _, -, fromRoot, first, _, ⟨_, ⟨each, second, rfl⟩, rfl⟩, _, -, rfl⟩
    use root, fromRoot, each, ⟨named, first, second⟩
    rw [filterMap_declaration?_append]
    rfl
  · rintro ⟨root, fromRoot, each, ⟨named, first, second⟩, rfl⟩
    rw [Context.modelsOfParts, ← filterMap_declaration?_append]
    exact ⟨root, named, (), trivial, fromRoot, first, _, ⟨_, ⟨each, second, rfl⟩, rfl⟩, (),
      trivial, rfl⟩

theorem Parts.readWithin_warnings
    {root : String} {fromRoot : Results} {each : String × Json → Results}
    (parts : Parts document (c.enter document) fields depth root fromRoot each)
    (held : (c.enter document).definitions? = some fields) :
  (readWithin (depth + 2) ⟨.document, document, []⟩ c).warnings =
    (readWithin (depth + 1) ⟨.definition, document, [root]⟩ (c.enter document)).warnings ++
      (readEach (readWithin depth) .definition (c.enter document).container (c.enter document)
        fields).warnings
  := by
  have members : (readMembers (readWithin depth) .definition (.object fields)
      (c.enter document).container (c.enter document)).outcome =
        .ok (.ofList (fields.flatMap fun e => (each e).flatten)) :=
    readMembers_outcome_eq_ok.mpr
      ⟨fields, rfl, _, readEach_outcome_eq_ok.mpr ⟨each, parts.second, rfl⟩, rfl⟩
  have second : readContainer (readWithin (depth + 1)) (c.enter document) =
      readMembers (readWithin depth) .definition (.object fields) (c.enter document).container
        (c.enter document) := by
    simp only [readContainer, held]
    rfl
  change (readDocument (readWithin (depth + 1)) document c).warnings = _
  unfold readDocument
  rw [Report.bind_warnings parts.named, warnings_rootName, List.nil_append,
    Report.bind_warnings (Report.note_outcome _), Report.note_warnings, List.nil_append,
    Report.bind_warnings parts.first, second, Report.bind_warnings members, readMembers,
    Report.bind_warnings_of_pure, Report.bind_warnings (Report.note_outcome _),
    Report.note_warnings, Report.pure_warnings, List.append_nil, List.append_nil]

/-- What has been read when a document with definitions yields models. -/
theorem exists_parts_of_inferModels
    (held : ((Context.start namespaceName metaNamespace given).enter document).definitions? =
      some fields) {ms : Models}
    (h : (inferModels document namespaceName metaNamespace (given.map .string)).outcome = .ok ms) :
  ∃ depth root fromRoot each,
    Parts document ((Context.start namespaceName metaNamespace given).enter document) fields depth
      root fromRoot each ∧
    ms = ((Context.start namespaceName metaNamespace given).enter document).modelsOfParts fields
      fromRoot each
  := by
  obtain ⟨found, reads, rfl⟩ := reads_of_inferModels h
  obtain ⟨depth, h⟩ := exists_depth_of_reads reads
  have deeper := outcome_eq_ok_of_le (Nat.le_add_right depth 2) h
  obtain ⟨root, fromRoot, each, parts, rfl⟩ := (readDocument_outcome_eq_ok held).mp deeper
  exact ⟨depth, root, fromRoot, each, parts, rfl⟩

section

variable {root : String} {fromRoot : Results} {each : String × Json → Results}
  (parts : Parts document ((Context.start namespaceName metaNamespace given).enter document) fields
    depth root fromRoot each)
  (held : ((Context.start namespaceName metaNamespace given).enter document).definitions? =
    some fields)
include parts held

/-- A document whose parts have been read, to whatever depth, yields their models. -/
theorem Parts.yields :
  (inferModels document namespaceName metaNamespace (given.map .string)).outcome =
    .ok (((Context.start namespaceName metaNamespace given).enter document).modelsOfParts fields
      fromRoot each)
  := by
  have h := (readDocument_outcome_eq_ok held).mpr ⟨root, fromRoot, each, parts, rfl⟩
  simp only [inferModels, segments?_map_string, read_eq_readWithin h,
    Report.bind_outcome_eq_ok, Report.pure_outcome, Except.ok.injEq]
  exact ⟨_, h, rfl⟩

/-- The warnings of a document are those of its root, then those of its definitions. -/
theorem Parts.warnings_eq :
  (inferModels document namespaceName metaNamespace (given.map .string)).warnings =
    (readWithin (depth + 1) ⟨.definition, document, [root]⟩
      ((Context.start namespaceName metaNamespace given).enter document)).warnings ++
    (readEach (readWithin depth) .definition
      ((Context.start namespaceName metaNamespace given).enter document).container
      ((Context.start namespaceName metaNamespace given).enter document) fields).warnings
  := by
  have h := (readDocument_outcome_eq_ok held).mpr ⟨root, fromRoot, each, parts, rfl⟩
  rw [← parts.readWithin_warnings held, ← read_eq_readWithin h]
  simp only [inferModels, segments?_map_string, Report.bind_warnings_of_pure]

end

end

end ConceptModel.Inference

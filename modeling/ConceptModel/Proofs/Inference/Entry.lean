import ConceptModel.Proofs.Inference.Descent
import ConceptModel.Proofs.Inference.Distinct
import ConceptModel.Proofs.Inference.Origin

/-!
# Entering a document

A document that is read is an object or a truth value, and what is read inside of it are
its root and its definitions.  A visit on the way from there that announces a declaration is
a `Source` of it.
-/

namespace ConceptModel.Inference

open Json Relation

variable {document : Json} {c : Context}

/-- A document passes just in case nothing is found. -/
theorem check_eq_ok
    {d : Dialect} :
  d.check document = .ok () ↔ d.findings document = []
  := by
  unfold Dialect.check
  split
  next clear => simp [clear]
  next found => simp [found]
  next found => simp [found]

/-- A document is accepted just in case it has a dialect in which nothing is found. -/
theorem checkDocument_outcome_eq_ok :
  (checkDocument document).outcome = .ok () ↔
    ∃ d, Dialect.ofDocument document = .ok d ∧ d.findings document = []
  := by
  simp [checkDocument, check_eq_ok]

/-- A document whose root has a name is accepted. -/
theorem checkDocument_of_rootName
    {root : String} (h : (rootName document).outcome = .ok root) :
  (checkDocument document).outcome = .ok ()
  := by
  obtain ⟨_, checked, -⟩ := by simpa only [rootName, Report.bind_outcome_eq_ok] using h
  exact checked

/-- A document with a root has been checked to be a schema. -/
theorem isSchema_of_rootName
    {root : String} (h : (rootName document).outcome = .ok root) :
  document.isObject = true ∨ document.isBool = true
  := by
  obtain ⟨d, -, clear⟩ := checkDocument_outcome_eq_ok.mp (checkDocument_of_rootName h)
  cases document with
  | object fields => exact .inl rfl
  | bool value => exact .inr rfl
  | _ => simp [Dialect.findings] at clear

/-- The references of a document with a root occur in the object that it stands for. -/
theorem references_subset_of_rootName
    {root : String} (h : (rootName document).outcome = .ok root) :
  document.references ⊆ (wholeOf document).references
  := by
  cases document with
  | object fields => exact List.Subset.refl _
  | bool value => exact List.nil_subset _
  | _ => obtain h | h := isSchema_of_rootName h <;> simp [isObject, isBool] at h

/-- The root of a document lies inside of it. -/
theorem inside_root
    {root : String} (h : (rootName document).outcome = .ok root) :
  Inside (wholeOf document) (containerOf document c.container)
    (⟨.definition, document, [root]⟩, c.enter document)
  where
  role := Role.noConfusion
  fits := trivial
  document_eq := rfl
  container_eq := rfl
  references := references_subset_of_rootName h

theorem definitions?_eq_some
    {fields : List (String × Json)} (h : c.definitions? = some fields) :
  c.document.getPath? c.container = some (.object fields) ∧ c.container ≠ []
  := by
  unfold Context.definitions? at h
  split at h
  · simp at h
  next nonempty =>
    split at h
    next held =>
      obtain rfl := by simpa using h
      exact ⟨held, nonempty⟩
    next => simp at h

/-- The definitions of a document lie inside of it. -/
theorem inside_definitions
    {fields : List (String × Json)} (h : c.definitions? = some fields) :
  Inside c.document c.container (⟨.definitions, .object fields, c.container⟩, c)
  where
  role := Role.noConfusion
  fits := trivial
  document_eq := rfl
  container_eq := rfl
  references := references_subset_of_getPath? (definitions?_eq_some h).1

/-- No container of definitions is found just in case none holds an object. -/
theorem locateDefinitions_eq_nil
    {given : List String} (h : Reference.locateDefinitions document given = []) :
  ∀ path ∈ Reference.containers, ∀ fields, document.getPath? path ≠ some (.object fields)
  := by
  intro path mem fields held
  unfold Reference.locateDefinitions at h
  split at h
  next set => exact set h
  next =>
    cases search : Reference.containers.find? fun path =>
        ((document.getPath? path).map Json.isObject).getD false with
    | none =>
      have := List.find?_eq_none.mp search path mem
      simp [held, isObject] at this
    | some first =>
      have known := List.mem_of_find?_eq_some search
      obtain rfl : first = [] := by simpa [search] using h
      simp [Reference.containers] at known

/-- The definitions that references lead to are those of the container, which has a place
whenever there are any. -/
theorem definitions?_of_definition?
    {given : List String} {key : String} {v : Json}
    (located : c.container = containerOf document given) (whole : c.document = wholeOf document)
    (h : definition? (wholeOf document) (containerOf document given) key = some v) :
  ∃ fields, c.definitions? = some fields ∧ lookup? key fields = some v ∧
    placeOf (containerOf document given) = containerOf document given
  := by
  obtain ⟨w, place, held⟩ := Option.bind_eq_some_iff.mp h
  cases w with
  | object fields =>
    have known : containerOf document given ≠ [] := by
      intro unknown
      apply locateDefinitions_eq_nil unknown Reference.defaultContainer (by decide) fields
      simpa [placeOf, unknown] using place
    have same : placeOf (containerOf document given) = containerOf document given := by
      simp [placeOf, known]
    rw [same] at place
    exact ⟨fields, by simp [Context.definitions?, located, whole, known, place], held, same⟩
  | _ => simp [get?] at held

/-- A definition among others has been read, and what it yields is among what they do. -/
theorem reads_of_named
    {fields : List (String × Json)} {path : List String} {results : Results} {key : String}
    {v : Json} (h : Reads ⟨.definitions, .object fields, path⟩ c results)
    (mem : (key, v) ∈ fields) :
  ∃ own, Reads ⟨.definition, v, path ++ [key]⟩ c own ∧ ∀ e ∈ own.flatten, e ∈ results.flatten
  := by
  cases h with
  | @definitions _ _ _ own each =>
    use own (key, v), each _ mem
    intro e he
    simp only [Nested.flatten_ofList, List.mem_flatMap]
    exact ⟨_, mem, he⟩

/-! ### Models -/

theorem segments?_map_string
    (path : List String) :
  segments? (path.map .string) = some path
  := by
  induction path with
  | nil => rfl
  | cons segment rest ih =>
    have ih : List.mapM (m := Option) _ (rest.map Json.string) = some rest := ih
    simp [segments?, ih]

/-- Models are those of a document that is read, with definitions at a path of strings. -/
theorem exists_reads_of_inferModels
    {namespaceName : Json} {metaNamespace : String} {path : List Json} {ms : Models}
    (h : (inferModels document namespaceName metaNamespace path).outcome = .ok ms) :
  ∃ given found, segments? path = some given ∧
    Reads ⟨.document, document, []⟩ (.start namespaceName metaNamespace given) found ∧
    ms = modelsOf found
  := by
  unfold inferModels at h
  split at h
  next given held =>
    obtain ⟨found, reads, rfl⟩ := by
      simpa only [Report.bind_outcome_eq_ok, Report.pure_outcome, Except.ok.injEq] using h
    exact ⟨given, found, held, reads_of_readWithin reads, rfl⟩
  next =>
    obtain ⟨_, -, failed⟩ := Report.bind_outcome_eq_ok.mp h
    simp at failed

/-- A model that is inferred is that of a reading of the document. -/
theorem reads_of_inferModels
    {namespaceName : Json} {metaNamespace : String} {given : List String} {ms : Models}
    (h : (inferModels document namespaceName metaNamespace (given.map .string)).outcome =
      .ok ms) :
  ∃ found, Reads ⟨.document, document, []⟩ (.start namespaceName metaNamespace given) found ∧
    ms = modelsOf found
  := by
  obtain ⟨given', found, held, reads, same⟩ := exists_reads_of_inferModels h
  obtain rfl : given = given' := by simpa [segments?_map_string] using held
  exact ⟨found, reads, same⟩

/-- What has been read when a document yields models: its root and its definitions, if
there are any. -/
inductive Yields (document : Json) (c : Context) (found : List Declaration) : Prop where
  | intro {root : String} {fromRoot fromDefinitions : Results}
      (named : (rootName document).outcome = .ok root)
      (first : Reads ⟨.definition, document, [root]⟩ (c.enter document) fromRoot)
      (second : (∃ fields, (c.enter document).definitions? = some fields ∧
          Reads ⟨.definitions, .object fields, containerOf document c.container⟩
            (c.enter document) fromDefinitions) ∨
        (c.enter document).definitions? = none ∧ fromDefinitions = .nothing)
      (all : found = (fromRoot.flatten ++ fromDefinitions.flatten).filterMap Found.declaration?)

/-- A document is read as the model of what it yields. -/
theorem yields_of_reads
    {path : List String} {r : Results} (h : Reads ⟨.document, document, path⟩ c r) :
  ∃ found, Yields document c found ∧
    r = .one (.models ((c.enter document).modelsWith (distinctDeclarations found)))
  := by
  cases h with
  | document named held first second =>
    exact ⟨_, ⟨named, first, .inl ⟨_, held, second⟩, rfl⟩, rfl⟩
  | rootOnly named held first =>
    exact ⟨_, ⟨named, first, .inr ⟨held, rfl⟩, rfl⟩, by simp [Nested.flatten]⟩

section

variable {found : List Declaration}

/-- What the parts of a document declare is found. -/
theorem Yields.parts
    (h : Yields document c found) {path : List String} {x : Visit}
    (step : HandsOn (⟨.document, document, path⟩, c) x) :
  ∃ results, Reads x.1 x.2 results ∧ ∀ d, .declaration d ∈ results.flatten → d ∈ found
  := by
  obtain ⟨named, first, second, rfl⟩ := h
  simp only [List.mem_filterMap, List.mem_append]
  cases step with
  | root named' =>
    obtain rfl := by simpa using named.symm.trans named'
    exact ⟨_, first, fun d mem => ⟨_, .inl mem, rfl⟩⟩
  | container held =>
    obtain ⟨fields, held', second⟩ | ⟨unknown, -⟩ := second
    · obtain rfl := by simpa using held.symm.trans held'
      exact ⟨_, second, fun d mem => ⟨_, .inr mem, rfl⟩⟩
    · simp [unknown] at held

/-- What is found is declared in a part of the document. -/
theorem Yields.exists_part
    (h : Yields document c found) {d : Declaration} (mem : d ∈ found) (path : List String) :
  ∃ x results, HandsOn (⟨.document, document, path⟩, c) x ∧ Reads x.1 x.2 results ∧
    .declaration d ∈ results.flatten
  := by
  obtain ⟨named, first, second, rfl⟩ := h
  obtain ⟨e, mem, isDeclaration⟩ := List.mem_filterMap.mp mem
  obtain rfl : e = .declaration d := by
    cases e <;> simp [Found.declaration?] at isDeclaration ⊢
    exact isDeclaration
  obtain mem | mem := List.mem_append.mp mem
  · exact ⟨_, _, .root named, first, mem⟩
  · obtain ⟨fields, held, second⟩ | ⟨-, rfl⟩ := second
    · exact ⟨_, _, .container held, second, mem⟩
    · simp [Nested.flatten] at mem

/-- Every field of what is found was built by a visit of a part of the document. -/
theorem Yields.built
    (h : Yields document c found) {d : Declaration} (mem : d ∈ found) {f : Field}
    (held : f ∈ d.fields) :
  ∃ x results y, HandsOn (⟨.document, document, []⟩, c) x ∧ Reads x.1 x.2 results ∧
    ReflTransGen HandsOn x y ∧ Builds y f
  := by
  obtain ⟨x, results, step, reads, mem⟩ := h.exists_part mem []
  have inside : x.1.role ≠ .document := by cases step <;> exact Role.noConfusion
  obtain ⟨y, reached, builds⟩ := built_of_reads reads inside mem held
  exact ⟨x, results, y, step, reads, reached, builds⟩

end

/-- Every field of the models of a document was built by a visit on the way from it. -/
theorem exists_builds_of_inferModels
    {namespaceName : Json} {metaNamespace : String} {path : List Json} {ms : Models}
    (inferred : (inferModels document namespaceName metaNamespace path).outcome = .ok ms) :
  ∃ given, segments? path = some given ∧
    ∀ m ∈ ms.models, ∀ d ∈ m.declarations, ∀ f ∈ d.fields, ∃ y, Builds y f ∧
      ReflTransGen HandsOn
        (⟨.document, document, []⟩, .start namespaceName metaNamespace given) y
  := by
  obtain ⟨given, results, located, reads, rfl⟩ := exists_reads_of_inferModels inferred
  obtain ⟨found, yields, rfl⟩ := yields_of_reads reads
  use given, located
  intro m isModel d mem f held
  obtain rfl := List.mem_singleton.mp isModel
  obtain ⟨_, _, y, step, -, reached, builds⟩ :=
    yields.built (mem_of_mem_distinctDeclarations mem) held
  exact ⟨y, builds, .head step reached⟩

/-- Whether a visit on the way from a document announces the declaration. -/
def Source (document : Json) (c : Context) (x : Visit) (d : Declaration) : Prop :=
  ReflTransGen HandsOn (⟨.document, document, []⟩, c) x ∧ Announces x d

/-- Every declaration that is found in a document has a source. -/
theorem Yields.exists_source
    {found : List Declaration} (h : Yields document c found) {d : Declaration} (mem : d ∈ found) :
  ∃ x, Source document c x d
  := by
  obtain ⟨x, results, step, reads, mem⟩ := h.exists_part mem []
  have inside : x.1.role ≠ .document := by cases step <;> exact Role.noConfusion
  obtain ⟨y, reached, announces⟩ := announced_of_reads reads inside mem
  exact ⟨y, .head step reached, announces⟩

end ConceptModel.Inference

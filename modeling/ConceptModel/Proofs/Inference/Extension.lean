import ConceptModel.Proofs.Inference.Near
import Mathlib.Data.List.Find

/-!
# Definitions that nothing refers to

A definition is added after all others.  When no reference of a document leads to it, what the
document was read as stays: the root and the other definitions have the same declarations and
the same warnings as before, and what the new definition brings forth comes after them:
`prefix_of_extended`.
-/

namespace ConceptModel.Inference

open Json

/-! ### The document -/

theorem mem_containers_of_containerOf
    {document : Json} (known : containerOf document [] ≠ []) :
  containerOf document [] ∈ Reference.containers
  := by
  unfold containerOf Reference.locateDefinitions at known ⊢
  simp only [ne_eq, not_true_eq_false, if_false] at known ⊢
  cases search : Reference.containers.find? fun path =>
      ((getPath? path (wholeOf document)).map isObject).getD false with
  | none => simp [search] at known
  | some path => exact List.mem_of_find?_eq_some search

section

variable {key : String} {value : Json} {container : List String}

/-- References that do not point to the new definition lead to the same as before. -/
theorem resolve_of_extended
    {v w : Json} (extended : Extended key value container v w) (known : container ≠ [])
    {reference : String} (elsewhere : Reference.segments? reference ≠ some (container ++ [key])) :
  Reference.resolve w container reference = Reference.resolve v container reference
  := by
  obtain ⟨fields, held, held', -⟩ := extended.getPath?
  unfold Reference.resolve
  cases points : Reference.segments? reference with
  | none => rfl
  | some pointer =>
    simp only [Except.ok.injEq, Reference.Resolved.mk.injEq, true_and]
    unfold Reference.target
    cases last : pointer.getLast? with
    | none => rfl
    | some other =>
      simp only [if_neg known]
      by_cases inside : pointer.dropLast = container
      · have different : other ≠ key := by
          rintro rfl
          apply elsewhere
          rw [points, ← inside, List.dropLast_append_getLast? other last]
        simp only [inside, if_true, held, held', Option.bind_some, get?, lookup?_append, lookup?,
          if_neg different.symm, Option.or_none]
      · simp only [inside, if_false]

/-- The definitions stand under a key of the document that is not that of its properties. -/
theorem exists_altered_of_extended
    {fields fields' : List (String × Json)}
    (extended : Extended key value (containerOf (.object fields) []) (.object fields)
      (.object fields'))
    (known : containerOf (.object fields) [] ≠ []) :
  ∃ first, Altered first fields fields' ∧ first ≠ "properties"
  := by
  have apart : ∀ p ∈ Reference.containers, p.head? ≠ some "properties" := by decide
  have outside := apart _ (mem_containers_of_containerOf known)
  obtain ⟨first, rest, place⟩ := List.exists_cons_of_ne_nil known
  rw [place] at extended outside
  exact ⟨first, extended.altered, by simpa using outside⟩

/-- The definitions are found where they were. -/
theorem containerOf_of_extended
    {fields fields' : List (String × Json)}
    (extended : Extended key value container (.object fields) (.object fields'))
    (located : containerOf (.object fields) [] = container) (known : container ≠ []) :
  containerOf (.object fields') [] = container
  := by
  have listed : container ∈ Reference.containers := by
    rw [← located] at known ⊢
    exact mem_containers_of_containerOf known
  have apart : ∀ p ∈ Reference.containers, ∀ q ∈ Reference.containers, p ≠ q →
      p ≠ [] ∧ p.head? ≠ q.head? := by decide
  have same : ∀ p ∈ Reference.containers, (getPath? p (.object fields')).map isObject =
      (getPath? p (.object fields)).map isObject := by
    intro p mem
    by_cases here : p = container
    · subst here
      obtain ⟨_, held, held', -⟩ := extended.getPath?
      rw [held, held']
      rfl
    · obtain ⟨filled, heads⟩ := apart p mem container listed here
      obtain ⟨first, rest, rfl⟩ := List.exists_cons_of_ne_nil filled
      obtain ⟨other, place, rfl⟩ := List.exists_cons_of_ne_nil known
      have different : first ≠ other := by simpa using heads
      simp only [getPath?, get?, extended.altered.lookup?_of_ne different]
  have search : (Reference.containers.find? fun path =>
        ((getPath? path (.object fields')).map isObject).getD false) =
      Reference.containers.find? fun path =>
        ((getPath? path (.object fields)).map isObject).getD false := by
    apply List.find?_congr
    intro p mem
    rw [same p mem]
  simpa only [containerOf, wholeOf, Body.ofJson_object, Reference.locateDefinitions, ne_eq,
    not_true_eq_false, if_false, search] using located

end

/-! ### The parts of the document -/

/-- What is read of further members comes after what is read of the first ones. -/
theorem readEach_warnings_prefix
    {read : Reader} {role : Role} {path : List String} {c : Context}
    (members more : List (String × Json)) :
  (readEach read role path c members).warnings <+:
    (readEach read role path c (members ++ more)).warnings
  := by
  induction members with
  | nil => exact List.nil_prefix
  | cons e rest ih =>
    simp only [readEach, List.cons_append]
    cases held : (read ⟨role, e.2, path ++ [e.1]⟩ c).outcome with
    | error failure =>
      simp [Bind.bind, Report.bind, held]
    | ok found =>
      rw [Report.bind_warnings held, Report.bind_warnings held, Report.bind_warnings_of_pure,
        Report.bind_warnings_of_pure]
      exact (List.prefix_append_right_inj _).mpr ih

section

variable {fields fields' members : List (String × Json)} {key : String} {value : Json} {c : Context}
  (extended : Extended key value c.container (.object fields) (.object fields'))
  (document : c.document = .object fields)
  (held : c.definitions? = some members)
  (leads : ∀ r ∈ (Json.object fields).references,
    Reference.resolve (.object fields') c.container r =
      Reference.resolve (.object fields) c.container r)
include document held leads

/-- The definitions of the document are read as before. -/
theorem readWithin_eq_of_mem
    {e : String × Json} (mem : e ∈ members) (depth : Nat) :
  readWithin depth ⟨.definition, e.2, c.container ++ [e.1]⟩ c =
    readWithin depth ⟨.definition, e.2, c.container ++ [e.1]⟩
      (c.mapDocument fun _ => .object fields')
  := by
  have inside := (inside_definitions held).asks (.handsOn (.named mem))
  rw [document] at inside
  exact readWithin_mapDocument leads inside

/-- What has been read of the document with one definition more has been read of the document
without it. -/
theorem Parts.without
    {depth : Nat} {root : String} {fromRoot' : Results} {each : String × Json → Results}
    (parts : Parts (.object fields') (c.mapDocument fun _ => .object fields')
      (members ++ [(key, value)]) depth root fromRoot' each)
    (named : (rootName (.object fields)).outcome = .ok root)
    (likewise : Likewise (readWithin (depth + 1) ⟨.definition, .object fields, [root]⟩ c)
      (readWithin (depth + 1) ⟨.definition, .object fields', [root]⟩
        (c.mapDocument fun _ => .object fields'))) :
  ∃ fromRoot, Parts (.object fields) c members depth root fromRoot each ∧
    declarationsIn fromRoot = declarationsIn fromRoot'
  := by
  obtain ⟨fromRoot, first, same⟩ := likewise.symm.exists_outcome parts.first
  use fromRoot
  constructor
  · use named, first
    intro e mem
    rw [readWithin_eq_of_mem document held leads mem]
    exact parts.second e (List.mem_append_left _ mem)
  · exact same

/-- The warnings of the definitions come before those of the one that is added. -/
theorem readEach_prefix_of_extended
    (depth : Nat) :
  (readEach (readWithin depth) .definition c.container c members).warnings <+:
    (readEach (readWithin depth) .definition c.container (c.mapDocument fun _ => .object fields')
      (members ++ [(key, value)])).warnings
  := by
  have same : readEach (readWithin depth) .definition c.container c members =
      readEach (readWithin depth) .definition c.container (c.mapDocument fun _ => .object fields')
        members :=
    readEach_similar Report.similarity_eq fun e mem =>
      readWithin_eq_of_mem document held leads mem depth
  rw [same]
  exact readEach_warnings_prefix members _

end

/-! ### Unreferenced definitions -/

theorem definitions?_of_place
    {document : Json} {fields : List (String × Json)} {c : Context}
    (known : containerOf document c.container ≠ [])
    (place : (wholeOf document).getPath? (containerOf document c.container) =
      some (.object fields)) :
  (c.enter document).definitions? = some fields
  := by
  have known : (c.enter document).container ≠ [] := known
  have place : (c.enter document).document.getPath? (c.enter document).container =
      some (.object fields) := place
  simp only [Context.definitions?, if_neg known, place]

/-- A definition that is added after all others, and to which no reference leads, changes
nothing else: the declarations and the warnings that there were come first, in their order. -/
theorem prefix_of_extended
    {document document' namespaceName : Json} {metaNamespace key : String} {value : Json}
    (accepted : (checkDocument document).outcome = .ok ())
    (known : containerOf document [] ≠ [])
    (extended : Extended key value (containerOf document []) document document')
    (unreferenced : ∀ r ∈ document.references,
      Reference.segments? r ≠ some (containerOf document [] ++ [key]))
    {ms' : Models}
    (inferred : (inferModels document' namespaceName metaNamespace []).outcome = .ok ms') :
  ∃ ms, (inferModels document namespaceName metaNamespace []).outcome = .ok ms ∧
    declarationsOf ms <+: declarationsOf ms' ∧
    (inferModels document namespaceName metaNamespace []).warnings <+:
      (inferModels document' namespaceName metaNamespace []).warnings
  := by
  obtain ⟨fields, fields', rfl, rfl⟩ := extended.objects
  obtain ⟨members, place, place', -⟩ := extended.getPath?
  have located := containerOf_of_extended extended rfl known
  have held := definitions?_of_place (c := .start namespaceName metaNamespace []) known place
  have held' : ((Context.start namespaceName metaNamespace []).enter
      (.object fields')).definitions? = some (members ++ [(key, value)]) := by
    rw [← located] at known place'
    exact definitions?_of_place known place'
  have enters : (Context.start namespaceName metaNamespace []).enter (.object fields') =
      ((Context.start namespaceName metaNamespace []).enter (.object fields)).mapDocument
        fun _ => .object fields' := by
    simp only [Context.enter, Context.mapDocument, Context.start, located]
    rfl
  have leads (r : String) (mem : r ∈ (Json.object fields).references) :=
    resolve_of_extended extended known (unreferenced r mem)
  obtain ⟨first, altered, outside⟩ := exists_altered_of_extended extended known
  obtain ⟨depth, root, fromRoot', each, parts', rfl⟩ := exists_parts_of_inferModels held' inferred
  have named : (rootName (.object fields)).outcome = .ok root :=
    rootName_of_near (near_of_altered altered).symm accepted parts'.named
  have likewise := likewise_root altered outside
    (inside_root (c := .start namespaceName metaNamespace []) named) leads (depth + 1)
  have warnings' := parts'.warnings_eq held'
  rw [enters] at parts' warnings'
  obtain ⟨fromRoot, parts, same⟩ := parts'.without rfl held leads named likewise
  refine ⟨_, parts.yields held, ?_, ?_⟩
  · simp only [Context.modelsOfParts, declarationsOf_modelsWith, same, List.flatMap_append]
    rw [← List.append_assoc]
    exact distinctDeclarations_prefix _ _
  · have warnings := parts.warnings_eq held
    simp only [List.map_nil] at warnings warnings'
    rw [warnings, warnings', likewise.warnings]
    apply (List.prefix_append_right_inj _).mpr
    exact readEach_prefix_of_extended rfl held leads depth

/-- The definitions of a bookshelf: a list of books, one of which may follow another. -/
def bookDefinitions : List (String × Json) :=
  [("Books", .object
      [("type", .string "array"), ("items", .object [("$ref", .string "#/definitions/Book")])]),
    ("Book", .object
      [("type", .string "object"),
        ("properties", .object
          [("sequel", .object [("$ref", .string "#/definitions/Book")]),
            ("title", .object [("type", .array [.string "string", .string "null"])])])])]

/-- A reader, who lends books to another reader. -/
def bookReader : Json :=
  .object
    [("type", .string "object"),
      ("properties", .object
        [("lends", .object [("$ref", .string "#/definitions/Books")]),
          ("to", .object
            [("anyOf", .array [.object [("$ref", .string "#/definitions/Reader")]])])])]

/-- A bookshelf with the given definitions. -/
def bookshelf (definitions : List (String × Json)) : Json :=
  .object
    [("definitions", .object definitions),
      ("properties", .object [("books", .object [("$ref", .string "#/definitions/Books")])])]

/-- A reader is added, who refers to the books and to itself. -/
theorem prefix_of_extended_bookshelf :
  ∃ ms ms',
    (inferModels (bookshelf (bookDefinitions ++ [("Reader", bookReader)])) (.string "org.acme")
      defaultMetaNamespace []).outcome = .ok ms' ∧
    (inferModels (bookshelf bookDefinitions) (.string "org.acme") defaultMetaNamespace
      []).outcome = .ok ms ∧
    declarationsOf ms <+: declarationsOf ms' ∧
    (inferModels (bookshelf bookDefinitions) (.string "org.acme") defaultMetaNamespace
      []).warnings <+:
    (inferModels (bookshelf (bookDefinitions ++ [("Reader", bookReader)])) (.string "org.acme")
      defaultMetaNamespace []).warnings
  := by
  have container : containerOf (bookshelf bookDefinitions) [] = ["definitions"] := by
    decide +kernel
  have extended : Extended "Reader" bookReader ["definitions"] (bookshelf bookDefinitions)
      (bookshelf (bookDefinitions ++ [("Reader", bookReader)])) := by
    have first : lookup? "definitions" [] = none := rfl
    exact .inside first (.here (by decide))
  have unreferenced : ∀ r ∈ (bookshelf bookDefinitions).references,
      Reference.segments? r ≠ some (["definitions"] ++ ["Reader"]) := by
    decide +kernel
  obtain ⟨ms', inferred⟩ : ∃ ms',
      (inferModels (bookshelf (bookDefinitions ++ [("Reader", bookReader)])) (.string "org.acme")
        defaultMetaNamespace []).outcome = .ok ms' :=
    Report.exists_outcome_eq_ok (by decide +kernel)
  have accepted : (checkDocument (bookshelf bookDefinitions)).outcome = .ok () := by
    decide +kernel
  rw [← container] at extended unreferenced
  obtain ⟨ms, held, declared, warned⟩ :=
    prefix_of_extended accepted (by simp [container]) extended unreferenced inferred
  exact ⟨ms, ms', inferred, held, declared, warned⟩

end ConceptModel.Inference

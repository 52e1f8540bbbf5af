import ConceptModel.Proofs.Inference.Naming
import ConceptModel.Proofs.Inference.Visits
import ConceptModel.Proofs.Text.Collision

/-!
# Values of enumerations

A schema that lists its values comes to the same values as a definition and as a property, one for
each element that is not empty: `reads_enumeration`.  These are told apart by the texts of the
elements, and not by more than is left of the texts in identifiers.  So an enumeration may have a
value twice although no two of its elements are the same.
-/

namespace ConceptModel.Inference

open Text

section

variable {v : Json} {elements : List Json}

theorem propertyRule_of_listed
    (listed : v.get? "enum" = some (.array elements)) :
  (Body.ofJson v).propertyRule = .enumeration elements
  := by
  have held := Body.enumeration?_eq_some.mpr (Body.get?_eq_array_iff.mp (Body.get?_ofJson listed))
  simp [Body.propertyRule, held]

/-- No value repeats just in case no two elements collide. -/
theorem nodup_enumerationValues_iff :
  (enumerationValues elements).Nodup ↔
    (elements.filter Json.isTruthy).Pairwise fun e e' => ¬ Collide e.bare e'.bare
  := by
  rw [enumerationValues, List.Nodup, List.pairwise_map]
  simp only [Ne, normalizeIdentifier_eq_iff]

/-- A schema that lists its values comes to the same values as a definition and as a property, one
for each element that is not empty, in order.  None repeats just in case no two of the elements
collide: those of normal texts do so if they have one text, but for an underscore in front, and
integers if they are of one amount. -/
theorem reads_enumeration
    (listed : v.get? "enum" = some (.array elements)) (path : List String) (c : Context) :
  ∃ values : List String,
    (∀ found, Reads ⟨.definition, v, path⟩ c found ↔
      found = .one (.declaration (.enumeration (normalizeName (nameOf path)) values))) ∧
    (nameOf path ∉ reservedNames → ∀ found, Reads ⟨.property, v, path⟩ c found ↔
      found = .ofList
        [.field ((fieldBase (nameOf path) c).field (.declared (normalizeName (pathName path)))),
          .declaration (.enumeration (normalizeName (pathName path)) values)]) ∧
    values = (elements.filter Json.isTruthy).map (fun e => normalizeIdentifier e.bare) ∧
    (values.Nodup ↔
      (elements.filter Json.isTruthy).Pairwise fun e e' => ¬ Collide e.bare e'.bare) ∧
    (∀ e ∈ elements, ∀ e' ∈ elements, Normal e.bare.toList → Normal e'.bare.toList →
      (Collide e.bare e'.bare ↔
        e.bare = e'.bare ∨ Guards e.bare e'.bare ∨ Guards e'.bare e.bare)) ∧
    ∀ m n : Int, .number (.int m) ∈ elements → .number (.int n) ∈ elements →
      (Collide (Json.number (.int m)).bare (Json.number (.int n)).bare ↔ m.natAbs = n.natAbs)
  := by
  use enumerationValues elements
  refine ⟨?_, ?_, rfl, nodup_enumerationValues_iff, ?_, ?_⟩
  · intro found
    apply Reads.eq_iff
    exact .enumerated listed (.enumeration listed rfl)
  · intro free found
    apply Reads.eq_iff
    exact .choice free (propertyRule_of_listed listed)
  · intro e _ e' _ normal normal'
    exact normal.collide_iff normal'
  · intro m n _ _
    rw [← normalizeIdentifier_eq_iff]
    exact normalizeIdentifier_int_eq_iff

end

/-- Steps up and down, by numbers and by names. -/
def stepList : List Json :=
  [.number (.int 1), .number (.int (-1)), .bool true, .string "true", .bool false,
    .string "a step", .string "a-step"]

/-- A step. -/
def steps : Json := .object [("enum", .array stepList)]

theorem reads_enumeration_steps :
  ∃ values, (∀ found, Reads ⟨.definition, steps, ["definitions", "Step"]⟩ {} found ↔
      found = .one (.declaration (.enumeration "Step" values))) ∧
    values = ["_1", "_1", "true", "true", "a_step", "a_step"]
  := by
  obtain ⟨values, reads, -, spelled, -⟩ :=
    @reads_enumeration steps stepList rfl ["definitions", "Step"] {}
  have name : normalizeName (nameOf ["definitions", "Step"]) = "Step" := by decide +kernel
  rw [name] at reads
  use values, reads
  rw [spelled]
  decide +kernel

/-- No two steps are the same, but every value of theirs stands twice, be it in a property or in a
definition. -/
theorem values_steps :
  (stepList.Pairwise fun e e' => e.same e' = false) ∧
  (inferModels (.object
      [("properties", .object [("step", steps)]), ("definitions", .object [("Step", steps)])])
    (.string "org.acme") defaultMetaNamespace [.string "definitions"]).outcome.toOption.map
      (fun ms => ms.models.flatMap fun m => m.declarations.map fun d => (d.name, d.values)) =
    some
      [("Root", []),
        ("Root$_properties$_step", ["_1", "_1", "true", "true", "a_step", "a_step"]),
        ("Step", ["_1", "_1", "true", "true", "a_step", "a_step"])]
  := by
  decide +kernel

end ConceptModel.Inference

import ConceptModel.Proofs.Inference.Distinct
import ConceptModel.Proofs.Inference.Entry
import ConceptModel.Proofs.Text.Grammar

/-!
# Names of declarations

Whatever the schemas of a document hold, a visit that announces a declaration gives it an
identifier for a name, and a property that builds a field of a declared type gives it an
identifier for a type.  So models name declarations apart and by identifiers only:
`naming_of_inferModels`.
-/

namespace ConceptModel

open Text

/-- The values of an enumeration. -/
def Declaration.values : Declaration → List String
  | enumeration _ values => values
  | _ => []

/-- A declaration that is named, typed and enumerated by identifiers. -/
structure Declaration.WellNamed (d : Declaration) : Prop where
  name : IsIdentifier d.name
  types : ∀ f ∈ d.fields, ∀ type, f.type = .declared type → IsIdentifier type
  values : ∀ value ∈ d.values, IsIdentifier value

namespace Inference

open Relation

variable {x y : Visit} {d : Declaration}

/-! ### Visits -/

theorem isIdentifier_of_mem_enumerationValues
    {elements : List Json} {value : String} (h : value ∈ enumerationValues elements) :
  IsIdentifier value
  := by
  obtain ⟨element, -, rfl⟩ := List.mem_map.mp h
  apply isIdentifier_normalizeIdentifier

theorem isIdentifier_name_of_announces
    (h : Announces x d) :
  IsIdentifier d.name
  := by
  cases h <;> apply isIdentifier_normalizeName

theorem isIdentifier_value_of_announces
    (h : Announces x d) :
  ∀ value ∈ d.values, IsIdentifier value
  := by
  intro value mem
  cases h with
  | enumeration | choice => exact isIdentifier_of_mem_enumerationValues mem
  | scalar | concept => simp [Declaration.values] at mem

theorem isIdentifier_type_of_builds
    {f : Field} {type : String} (h : Builds y f) (isDeclared : f.type = .declared type) :
  IsIdentifier type
  := by
  cases h with
  | listed | referred | inline =>
    obtain rfl := by simpa [FieldBase.field] using isDeclared
    apply isIdentifier_normalizeName
  | freeform => simp [FieldBase.field] at isDeclared
  | primitive _ _ built => exact absurd isDeclared (primitiveField_ne_declared built)

/-! ### Models -/

theorem Yields.wellNamed
    {document : Json} {c : Context} {found : List Declaration} (h : Yields document c found)
    (mem : d ∈ found) :
  d.WellNamed
  := by
  obtain ⟨x, -, announces⟩ := h.exists_source mem
  constructor
  · exact isIdentifier_name_of_announces announces
  · intro f held type isDeclared
    obtain ⟨_, _, y, -, -, -, builds⟩ := h.built mem held
    exact isIdentifier_type_of_builds builds isDeclared
  · exact isIdentifier_value_of_announces announces

/-- The one model of a document has declarations of distinct names, and all their names,
declared types and values are identifiers. -/
theorem naming_of_inferModels
    {document namespaceName : Json} {metaNamespace : String} {path : List Json} {ms : Models}
    (inferred : (inferModels document namespaceName metaNamespace path).outcome = .ok ms) :
  ∃ m, ms.models = [m] ∧ (m.declarations.map Declaration.name).Nodup ∧
    ∀ d ∈ m.declarations, d.WellNamed
  := by
  obtain ⟨given, results, -, reads, rfl⟩ := exists_reads_of_inferModels inferred
  obtain ⟨found, yields, rfl⟩ := yields_of_reads reads
  use { namespaceName := namespaceName, declarations := distinctDeclarations found }, rfl
  constructor
  · exact nodup_distinctDeclarations found
  · intro d mem
    exact yields.wellNamed (mem_of_mem_distinctDeclarations mem)

/-- A form whose keys and values are no identifiers. -/
def orderForm : Json :=
  .object
    [("title", .string "order form"),
      ("properties", .object
        [("size (cm)", .object [("enum", .array [.string "10 x 20", .number (.int 7), .null])]),
          ("ship to", .object
            [("type", .string "object"),
              ("properties", .object [("zip", .object [("$ref", .string "#/definitions/3d")])])])]),
      ("definitions", .object [("3d", .object [("enum", .array [.string "a/b", .bool true])])])]

theorem naming_of_inferModels_orderForm :
  ∃ ms m, (inferModels orderForm (.string "org.acme") defaultMetaNamespace
      [.string "definitions"]).outcome = .ok ms ∧
    ms.models = [m] ∧ (m.declarations.map Declaration.name).Nodup ∧
    ∀ d ∈ m.declarations, d.WellNamed
  := by
  obtain ⟨ms, inferred⟩ : ∃ ms, (inferModels orderForm (.string "org.acme") defaultMetaNamespace
      [.string "definitions"]).outcome = .ok ms :=
    Report.exists_outcome_eq_ok (by decide +kernel)
  obtain ⟨m, naming⟩ := naming_of_inferModels inferred
  exact ⟨ms, m, inferred, naming⟩

end Inference

end ConceptModel

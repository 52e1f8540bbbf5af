import ConceptModel.Proofs.Printer.Breaks
import ConceptModel.Proofs.Text.Grammar

/-!
# Well-formed models

A model is well-formed when its names are identifiers, its imports and its namespace break no
line, and its validators and default values are such as may stand beside their types.  No part
of a well-formed model breaks a line.
-/

namespace ConceptModel

open Text

/-- A default value that is no double. -/
inductive Literal.Exact : Literal → Prop where
  | flag (value : Bool) : Exact (.flag value)
  | integer (value : Int) : Exact (.number (.int value))
  | text (value : String) : Exact (.text value)

/-- A validator that may stand in a field of a type: a range of its numbers with integers
for bounds, or a pattern for strings that ends where its slashes say. -/
inductive Validator.Fits : Validator → FieldType → Prop where
  | double (lower upper : Option Int) :
      Fits (.doubleRange (lower.map .int) (upper.map .int)) .double
  | integer (lower upper : Option Int) :
      Fits (.integerRange (lower.map .int) (upper.map .int)) .integer
  | string {pattern : String} (slash : '/' ∉ pattern.toList) (solid : Printer.Solid pattern) :
      Fits (.regex (.string pattern) "") .string

/-- The names of primitive types. -/
def primitiveNames : List String := ["String", "Boolean", "Double", "Integer", "DateTime"]

/-- Whether a type is primitive, or declared by an identifier that names no primitive
one. -/
def FieldType.WellFormed : FieldType → Prop
  | declared name => IsIdentifier name ∧ name ∉ primitiveNames
  | _ => True

/-- A field whose text can be read. -/
structure Field.WellFormed (f : Field) : Prop where
  name : IsIdentifier f.name
  type : f.type.WellFormed
  decorators : ∀ d ∈ f.decorators, IsIdentifier d.name
  defaultValue : ∀ value ∈ f.defaultValue, value.Exact
  validator : ∀ v ∈ f.validator, v.Fits f.type

/-- Whether the text of a declaration can be read. -/
def Declaration.WellFormed : Declaration → Prop
  | concept name isAbstract fields =>
    IsIdentifier name ∧ isAbstract = false ∧ ∀ f ∈ fields, f.WellFormed
  | enumeration name values => IsIdentifier name ∧ ∀ value ∈ values, IsIdentifier value
  | scalar name decorators => IsIdentifier name ∧ ∀ d ∈ decorators, IsIdentifier d.name
  | plain name => IsIdentifier name

/-- A model whose text can be read. -/
structure Model.WellFormed (m : Model) : Prop where
  namespaceName : ∃ s, m.namespaceName = .string s ∧ Printer.Solid s
  imports : ∀ i ∈ m.imports, Printer.Solid i
  declarations : ∀ d ∈ m.declarations, d.WellFormed
  decorators : m.decorators = []

/-! ### Line breaks -/

namespace Printer.Cto

theorem solid_of_isIdentifier
    {s : String} (h : IsIdentifier s) :
  Solid s
  := h.notMem (by decide)

theorem notMem_typeName
    {t : FieldType} (h : t.WellFormed) :
  ∀ c ∈ t.name.toList, c ∉ delimiters
  := by
  have primitive : (primitiveNames.all fun name =>
      name.toList.all fun c => decide (c ∉ delimiters)) = true := by decide
  simp only [List.all_eq_true, decide_eq_true_eq] at primitive
  cases t with
  | declared name => exact fun c mem delimiter => h.1.notMem delimiter mem
  | string | boolean | double | integer | dateTime =>
    exact primitive _ (by simp [primitiveNames, FieldType.name])

end Printer.Cto

open Printer.Cto

theorem Validator.Fits.solid
    {v : Validator} {type : FieldType} (h : v.Fits type) :
  v.Solid
  := by
  cases h with
  | double | integer => trivial
  | string slash solid => exact ⟨solid, by decide⟩

theorem Field.WellFormed.solid
    {f : Field} (h : f.WellFormed) :
  f.Solid
  := by
  constructor
  · exact solid_of_isIdentifier h.name
  · exact fun mem => notMem_typeName h.type '\n' mem (by decide)
  · exact fun d mem => solid_of_isIdentifier (h.decorators d mem)
  · exact fun v mem => (h.validator v mem).solid

theorem Declaration.WellFormed.solid
    {d : Declaration} (h : d.WellFormed) :
  d.Solid
  := by
  cases d with
  | concept => exact ⟨solid_of_isIdentifier h.1, fun f mem => (h.2.2 f mem).solid⟩
  | enumeration => exact ⟨solid_of_isIdentifier h.1, fun v mem => solid_of_isIdentifier (h.2 v mem)⟩
  | scalar => exact ⟨solid_of_isIdentifier h.1, fun d mem => solid_of_isIdentifier (h.2 d mem)⟩
  | plain => trivial

theorem Model.WellFormed.solid
    {m : Model} (h : m.WellFormed) :
  m.Solid
  := by
  obtain ⟨s, namespaceName, solid⟩ := h.namespaceName
  constructor
  · rw [namespaceName]
    exact solid
  · exact h.imports
  · exact fun d mem => (h.declarations d mem).solid

end ConceptModel

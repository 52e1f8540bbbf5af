import ConceptModel.Proofs.Json.Quote
import ConceptModel.Proofs.Number
import ConceptModel.Proofs.Printer.Lines

/-!
# Line breaks in Concerto texts

Which texts of a model can break a line: names, and the pattern and the flags of a regular
expression.  Everything else stands in quotes or is a number, and breaks none.
-/

namespace ConceptModel

open Printer

/-- Whether a validator breaks no line. -/
def Validator.Solid : Validator → Prop
  | regex pattern flags => Printer.Solid pattern.plain ∧ Printer.Solid flags
  | doubleRange .. | integerRange .. => True

/-- Whether a field breaks no line. -/
structure Field.Solid (f : Field) : Prop where
  name : Printer.Solid f.name
  type : Printer.Solid f.type.name
  decorators : ∀ d ∈ f.decorators, Printer.Solid d.name
  validator : ∀ v ∈ f.validator, v.Solid

/-- Whether a declaration breaks no line. -/
def Declaration.Solid : Declaration → Prop
  | concept name _ fields => Printer.Solid name ∧ ∀ f ∈ fields, f.Solid
  | enumeration name values => Printer.Solid name ∧ ∀ value ∈ values, Printer.Solid value
  | scalar name decorators => Printer.Solid name ∧ ∀ d ∈ decorators, Printer.Solid d.name
  | plain _ => True

/-- Whether a model breaks no line. -/
structure Model.Solid (m : Model) : Prop where
  namespaceName : Printer.Solid m.namespaceName.plain
  imports : ∀ i ∈ m.imports, Printer.Solid i
  declarations : ∀ d ∈ m.declarations, d.Solid

namespace Printer

variable {xs : List String}

/-- Texts that are joined break a line just when one of them does. -/
theorem solid_join :
  Solid (String.join xs) ↔ ∀ x ∈ xs, Solid x
  := by simp [Solid, String.toList_join]

/-- Texts with a separator that breaks no line break one just when one of them does. -/
theorem solid_intercalate
    {separator : String} (h : Solid separator) :
  Solid (separator.intercalate xs) ↔ ∀ x ∈ xs, Solid x
  := by
  induction xs with
  | nil => simp [Solid]
  | cons x xs ih =>
    cases xs with
    | nil => simp
    | cons y ys =>
      rw [String.intercalate_cons_cons, solid_append, solid_append, ih, List.forall_mem_cons]
      simp [h]

/-- Numbers break no line. -/
theorem solid_compact (x : Number) :
  Solid x.compact
  := fun mem => absurd (x.numeral_compact _ mem) (by decide)

namespace Cto

/-- Texts in quotes break no line. -/
theorem solid_literal (s : String) :
  Solid (literal s)
  := Json.lineBreak_notMem_quote true s

/-- Only the name of a decorator can break a line, as its arguments stand in quotes. -/
@[simp]
theorem solid_decorator
    {d : Decorator} :
  Solid (decorator d) ↔ Solid d.name
  := by
  have mark : Solid "@" := by decide
  have opening : Solid "(" := by decide
  have closing : Solid ")" := by decide
  have comma : Solid "," := by decide
  have arguments : ∀ x ∈ d.arguments.map literal, Solid x := by
    intro x mem
    obtain ⟨s, -, rfl⟩ := List.mem_map.mp mem
    exact solid_literal s
  unfold decorator
  split
  · simp [mark]
  · simp [mark, opening, closing, solid_intercalate comma, solid_literal]

theorem solid_defaultValue (value : Literal) :
  Solid (defaultValue value)
  := by
  cases value with
  | flag value => cases value <;> decide
  | number value => exact solid_compact value
  | text value => exact solid_literal value

theorem solid_bound (x : Option Number) :
  Solid (bound x)
  := by
  cases x with
  | none => decide
  | some x => exact solid_compact x

/-- Only the pattern and the flags of a validator can break a line. -/
@[simp]
theorem solid_validator
    {v : Validator} :
  Solid (validator v) ↔ v.Solid
  := by
  have opening : Solid "regex=/" := by decide
  have closing : Solid "/" := by decide
  have range : Solid "range=[" := by decide
  have comma : Solid "," := by decide
  have closing' : Solid "]" := by decide
  cases v <;>
    simp [validator, Validator.Solid, opening, closing, range, comma, closing', solid_bound]

/-- The type of a field breaks a line just when its name does. -/
theorem solid_fieldType
    {f : Field} :
  Solid (fieldType f) ↔ Solid f.type.name
  := by
  have array : Solid "[]" := by decide
  unfold fieldType
  split <;> simp [array]

/-- Among what follows the name of a field, only the validator can break a line. -/
theorem solid_modifiers
    {f : Field} :
  (∀ modifier ∈ modifiers f, Solid modifier) ↔ ∀ v ∈ f.validator, v.Solid
  := by
  have mark : Solid "default=" := by decide
  have optional : ∀ x ∈ if f.isOptional then ["optional"] else [], Solid x := by
    split <;> decide
  have default : ∀ x ∈ (f.defaultValue.map fun value => "default=" ++ defaultValue value).toList,
      Solid x := by
    intro x mem
    obtain ⟨value, -, rfl⟩ := Option.map_eq_some_iff.mp (Option.mem_toList.mp mem)
    exact solid_append.mpr ⟨mark, solid_defaultValue value⟩
  rw [modifiers, List.forall_mem_append, List.forall_mem_append]
  constructor
  · intro ⟨⟨_, validators⟩, _⟩ v held
    exact solid_validator.mp (validators (validator v) (by simp [Option.mem_def.mp held]))
  · intro held
    refine ⟨⟨default, ?_⟩, optional⟩
    intro x mem
    obtain ⟨v, some, rfl⟩ := Option.map_eq_some_iff.mp (Option.mem_toList.mp mem)
    exact solid_validator.mpr (held v some)

/-- The line of a field is broken by its type, its name or its validator only. -/
theorem solid_fieldLine
    {f : Field} :
  Solid (fieldLine f) ↔ Solid f.type.name ∧ Solid f.name ∧ ∀ v ∈ f.validator, v.Solid
  := by
  have mark : Solid "  o " := by decide
  have blank : Solid " " := by decide
  rw [← solid_modifiers]
  simp [fieldLine, mark, blank, solid_fieldType, solid_join, and_assoc]

/-- The lines of a field with its decorators are unbroken just when the field breaks none. -/
theorem unbroken_field
    {f : Field} :
  Unbroken (field f) ↔ f.Solid
  := by
  have indentation : Solid "  " := by decide
  have decorators : Unbroken (f.decorators.map fun d => "  " ++ decorator d)
      ↔ ∀ d ∈ f.decorators, Solid d.name := by
    simp [Unbroken, indentation]
  rw [field, unbroken_append, unbroken_cons, solid_fieldLine, decorators]
  constructor
  · rintro ⟨decorators, ⟨type, name, validator⟩, -⟩
    exact ⟨name, type, decorators, validator⟩
  · rintro ⟨name, type, decorators, validator⟩
    exact ⟨decorators, ⟨type, name, validator⟩, unbroken_nil⟩

theorem unbroken_flatMap
    {α : Type} {f : α → List String} {as : List α} :
  Unbroken (as.flatMap f) ↔ ∀ a ∈ as, Unbroken (f a)
  := List.forall_mem_flatMap

/-- The lines of a declaration are unbroken just when it breaks none. -/
theorem unbroken_declaration
    {d : Declaration} :
  Unbroken (declaration d) ↔ d.Solid
  := by
  have blank : Solid "" := by decide
  cases d with
  | concept name isAbstract fields =>
    have keyword : Solid "concept " := by decide
    have opening : Solid " \x7b" := by decide
    have closing : Solid "\x7d" := by decide
    simp [declaration, Declaration.Solid, blank, keyword, opening, closing, unbroken_flatMap,
      unbroken_field]
  | enumeration name values =>
    have keyword : Solid "enum " := by decide
    have opening : Solid " \x7b" := by decide
    have closing : Solid "\x7d" := by decide
    have mark : Solid "  o " := by decide
    have inside : Unbroken (values.map ("  o " ++ ·)) ↔ ∀ value ∈ values, Solid value := by
      simp [Unbroken, mark]
    simp [declaration, Declaration.Solid, blank, keyword, opening, closing, inside]
  | scalar name decorators =>
    have keyword : Solid "scalar " := by decide
    have base : Solid " extends String" := by decide
    have above : Unbroken (decorators.map decorator) ↔ ∀ d ∈ decorators, Solid d.name := by
      simp [Unbroken]
    simp [declaration, Declaration.Solid, blank, keyword, base, above, and_comm]
  | plain name => simp [declaration, Declaration.Solid, blank]

/-- The lines of a model are unbroken just when its names and its patterns are. -/
theorem unbroken_modelLines
    {m : Model} :
  Unbroken (modelLines m) ↔ m.Solid
  := by
  have keyword : Solid "namespace " := by decide
  have mark : Solid "import " := by decide
  have imports : Unbroken (m.imports.map ("import " ++ ·)) ↔ ∀ i ∈ m.imports, Solid i := by
    simp [Unbroken, mark]
  simp only [modelLines, unbroken_append, unbroken_cons, solid_append, keyword, imports,
    unbroken_flatMap, unbroken_declaration, unbroken_nil, true_and, and_true]
  constructor
  · rintro ⟨⟨namespaceName, imports⟩, declarations⟩
    exact ⟨namespaceName, imports, declarations⟩
  · rintro ⟨namespaceName, imports, declarations⟩
    exact ⟨⟨namespaceName, imports⟩, declarations⟩

end Cto

end Printer

end ConceptModel

import ConceptModel.Printer.Markdown
import ConceptModel.Proofs.Printer.Breaks
import ConceptModel.Proofs.Text.Projection

/-!
# Tables of Markdown texts

A line is a row of some cells when it has one bar more than there are cells, not counting the
bars behind a backslash.  The row of a field is one of five cells just in case none of the texts
that are put into its cells breaks the line or has a bar of its own: `isRow_fieldRow_iff`.
-/

namespace ConceptModel.Printer.Markdown

open Text

/-! ### Bars -/

/-- How many bars of a text have no backslash before them, where a character stands before the
text. -/
def bars (before : Char) : List Char → Nat
  | [] => 0
  | c :: cs => (if c = '|' ∧ before ≠ '\\' then 1 else 0) + bars c cs

/-- Bars are counted in one part and then in the other. -/
theorem bars_append
    {before : Char} {cs ds : List Char} :
  bars before (cs ++ ds) = bars before cs + bars (cs.getLastD before) ds
  := by
  induction cs generalizing before with
  | nil => simp [bars]
  | cons c cs ih =>
    rw [List.cons_append, bars, bars, ih, List.getLastD_cons]
    omega

/-- No bar is counted in a text that holds none. -/
theorem bars_of_notMem
    {before : Char} {cs : List Char} (h : '|' ∉ cs) :
  bars before cs = 0
  := by
  induction cs generalizing before with
  | nil => rfl
  | cons c cs ih =>
    obtain ⟨other, others⟩ := not_or.mp (List.mem_cons.not.mp h)
    simp [bars, Ne.symm other, ih others]

/-- What stands before a text matters only if it is a backslash and the text begins with a bar. -/
theorem bars_congr
    {before before' : Char} {cs : List Char}
    (h : cs.head? ≠ some '|' ∨ before ≠ '\\' ∧ before' ≠ '\\') :
  bars before cs = bars before' cs
  := by
  cases cs with
  | nil => rfl
  | cons c cs =>
    simp only [List.head?_cons, Option.some.injEq, ne_eq] at h
    unfold bars
    grind

/-- Whether a text is on one line, and all its bars have a backslash before them. -/
def Clear (s : String) : Prop := Solid s ∧ bars ' ' s.toList = 0

instance : DecidablePred Clear := fun _ => inferInstanceAs (Decidable (_ ∧ _))

/-- Whether a text is one line, which is a row of a number of cells. -/
def IsRow (count : Nat) (l : String) : Prop := Solid l ∧ bars '\n' l.toList = count + 1

instance (count : Nat) : DecidablePred (IsRow count) := fun _ => inferInstanceAs (Decidable (_ ∧ _))

/-- A text on one line without bars is clear. -/
theorem clear_of_notMem
    {s : String} (solid : Solid s) (h : '|' ∉ s.toList) :
  Clear s
  := ⟨solid, bars_of_notMem h⟩

/-- Whether a clear text parts what stands before it from what stands after it: it neither begins
with a bar nor ends with a backslash. -/
def Mark (s : String) : Prop :=
  Clear s ∧ s ≠ "" ∧ s.toList.head? ≠ some '|' ∧ s.toList.getLast? ≠ some '\\'

instance : DecidablePred Mark := fun _ => inferInstanceAs (Decidable (_ ∧ _))

section

variable {mark s t : String}

/-- Two texts with a mark between them are clear just in case both are. -/
theorem Mark.clear_between
    (h : Mark mark) :
  Clear (s ++ mark ++ t) ↔ Clear s ∧ Clear t
  := by
  obtain ⟨⟨solid, clear⟩, filled, begins, ends⟩ := h
  have inside : bars (s.toList.getLastD ' ') mark.toList = 0 := by
    rwa [bars_congr (.inl begins)]
  have last : (s.toList ++ mark.toList).getLastD ' ' ≠ '\\' := by
    obtain ⟨front, c, held⟩ :=
      (List.eq_nil_or_concat' mark.toList).resolve_left (by simpa using filled)
    rw [held, List.getLast?_concat] at ends
    rw [held, ← List.append_assoc, List.getLastD_concat]
    exact fun backslash => ends (congrArg some backslash)
  have after : bars ((s.toList ++ mark.toList).getLastD ' ') t.toList = bars ' ' t.toList :=
    bars_congr (.inr ⟨last, by decide⟩)
  simp only [Clear, solid_append, String.toList_append, bars_append, inside, after, solid]
  grind

theorem Mark.clear_before
    (h : Mark mark) :
  Clear (mark ++ s) ↔ Clear s
  := by
  have empty : Clear "" := by decide
  have between := h.clear_between (s := "") (t := s)
  rwa [String.empty_append, and_iff_right empty] at between

theorem Mark.clear_after
    (h : Mark mark) :
  Clear (s ++ mark) ↔ Clear s
  := by
  have empty : Clear "" := by decide
  have between := h.clear_between (s := s) (t := "")
  rwa [String.append_empty, and_iff_left empty] at between

/-- Texts joined by a mark are clear if each is. -/
theorem Mark.clear_intercalate
    (h : Mark mark) {xs : List String} :
  Clear (mark.intercalate xs) ↔ ∀ x ∈ xs, Clear x
  := by
  induction xs with
  | nil => simp; decide
  | cons x xs ih =>
    cases xs with
    | nil => simp
    | cons y ys =>
      rw [String.intercalate_cons_cons, h.clear_between, ih, List.forall_mem_cons (a := x)]

end

/-! ### Rows -/

/-- A row is its cells, each between blanks and before a bar. -/
theorem toList_row (cells : List String) :
  (row cells).toList = '|' :: cells.flatMap fun cell => ' ' :: (cell.toList ++ [' ', '|'])
  := by simp [row, String.toList_join, List.flatMap_map]

/-- Cells have one bar each, and no other just in case none of them has one of its own. -/
theorem exists_bars_cells
    (before : Char) (cells : List String) :
  ∃ others, bars before (cells.flatMap fun cell => ' ' :: (cell.toList ++ [' ', '|']))
      = cells.length + others ∧
    (others = 0 ↔ ∀ cell ∈ cells, bars ' ' cell.toList = 0)
  := by
  induction cells generalizing before with
  | nil => exact ⟨0, rfl, by simp⟩
  | cons cell cells ih =>
    obtain ⟨others, count, none⟩ := ih '|'
    use bars ' ' cell.toList + others
    constructor
    · simp only [List.flatMap_cons, List.cons_append, List.append_assoc, bars, bars_append]
      simp [count]
      omega
    · rw [List.forall_mem_cons, ← none, Nat.add_eq_zero_iff]

/-- A row is one of its cells just in case all of them are clear. -/
theorem isRow_row_iff
    {cells : List String} :
  IsRow cells.length (row cells) ↔ ∀ cell ∈ cells, Clear cell
  := by
  have solid : Solid (row cells) ↔ ∀ cell ∈ cells, Solid cell := by
    simp [Solid, toList_row]
  obtain ⟨others, count, none⟩ := exists_bars_cells '|' cells
  have count : bars '\n' (row cells).toList = cells.length + 1 + others := by
    rw [toList_row, bars, count]
    simp
    omega
  rw [IsRow, solid, count, Nat.add_eq_left, none, ← forall₂_and]
  rfl

/-- The row of a value is one of two cells just in case the value is clear. -/
theorem isRow_valueRow_iff
    {value : String} :
  IsRow 2 (valueRow value) ↔ Clear value
  := by
  have solid : Solid (valueRow value) ↔ Solid value := by simp [Solid, valueRow]
  have count : bars '\n' (valueRow value).toList = 3 + bars ' ' value.toList := by
    simp [valueRow, bars, bars_append]
    omega
  rw [IsRow, solid, count, Clear, Nat.add_eq_left]

/-- A table of values is unbroken if each of its rows is. -/
theorem unbroken_valueTable
    {values : List String} (h : ∀ value ∈ values, Solid (valueRow value)) :
  Unbroken (valueTable values)
  := by
  have none : Solid "No values." := by decide
  have title : Solid "| Value | Description |" := by decide
  have rule : Solid "| ------ | ------------------- |" := by decide
  unfold valueTable
  split
  · simp [none]
  · simpa [Unbroken, title, rule] using h

/-! ### Fields -/

/-- Whether all texts that are put into the row of a field are clear: its name, the namespace and
the name of a declared type, what the types of a union are called, and a pattern. -/
structure Tabular (m : Model) (f : Field) : Prop where
  name : Clear f.name
  type : ∀ type, f.type = .declared type → Clear m.namespaceName.plain ∧ Clear type
  union : ∀ d ∈ f.decorators, d.name = "StringifiedUnionType" → ∀ a ∈ d.arguments, Clear a
  pattern : ∀ pattern flags, f.validator = some (.regex pattern flags) → Clear pattern.plain

theorem clear_compact (x : Number) :
  Clear x.compact
  := by
  apply clear_of_notMem (solid_compact x)
  exact fun mem => absurd (x.numeral_compact _ mem) (by decide)

/-- A printed type is clear unless it shows a namespace or a declared name that is not. -/
theorem clear_fieldType_iff
    {m : Model} {f : Field} :
  Clear (fieldType m f) ↔
    ∀ type, f.type = .declared type → Clear m.namespaceName.plain ∧ Clear type
  := by
  have array : Mark "[]" := by decide
  have dot : Mark "." := by decide
  have single (name : String) : Clear (if f.isArray then name ++ "[]" else name) ↔ Clear name := by
    split
    · exact array.clear_after
    · rfl
  rw [fieldType, single]
  cases f.type with
  | declared type => simp [FieldType.isPrimitive, FieldType.name, dot.clear_between]
  | string | boolean | double | integer | dateTime =>
    simp only [FieldType.isPrimitive, if_true, FieldType.name, reduceCtorEq, false_imp_iff,
      implies_true, iff_true]
    decide

/-- A description is clear just in case the unions that it shows are. -/
theorem clear_description_iff
    {decorators : List Decorator} :
  Clear (description decorators) ↔
    ∀ d ∈ decorators, d.name = "StringifiedUnionType" → ∀ a ∈ d.arguments, Clear a
  := by
  have lineBreak : Mark "<br>" := by decide
  have comma : Mark ", " := by decide
  have before : Mark "Union of " := by decide
  have after : Mark " stored as a string" := by decide
  have json : Clear "Stringified JSON value" := by decide
  have meaning (d : Decorator) : (∀ text ∈ decoratorMeaning? d, Clear text) ↔
      (d.name = "StringifiedUnionType" → ∀ a ∈ d.arguments, Clear a) := by
    unfold decoratorMeaning?
    split_ifs with isJson isUnion
    · simp [isJson, json]
    · simp [isUnion, after.clear_after, before.clear_before, comma.clear_intercalate]
    · simp [isUnion]
  rw [description, lineBreak.clear_intercalate, List.forall_mem_filterMap]
  simp only [← meaning, Option.mem_def]

/-- Constraints are clear just in case their pattern is, if there is one. -/
theorem clear_constraints_iff
    {validator : Option Validator} :
  Clear ("<br>".intercalate (constraints validator)) ↔
    ∀ pattern flags, validator = some (.regex pattern flags) → Clear pattern.plain
  := by
  have lineBreak : Mark "<br>" := by decide
  have least : Mark "Minimum Value: " := by decide
  have greatest : Mark "Maximum Value: " := by decide
  have bounded (lower upper : Option Number) :
      ∀ text ∈ (lower.map fun x => "Minimum Value: " ++ x.compact).toList
        ++ (upper.map fun x => "Maximum Value: " ++ x.compact).toList, Clear text := by
    intro text mem
    obtain mem | mem := List.mem_append.mp mem
    · obtain ⟨x, -, rfl⟩ := Option.map_eq_some_iff.mp (Option.mem_toList.mp mem)
      exact least.clear_before.mpr (clear_compact x)
    · obtain ⟨x, -, rfl⟩ := Option.map_eq_some_iff.mp (Option.mem_toList.mp mem)
      exact greatest.clear_before.mpr (clear_compact x)
  rw [lineBreak.clear_intercalate]
  cases validator with
  | none => simp [constraints]
  | some v =>
    cases v with
    | doubleRange lower upper => simpa [constraints] using bounded lower upper
    | integerRange lower upper => simpa [constraints] using bounded lower upper
    | regex pattern flags =>
      have before : Mark "Matches Regular Expression: \x60" := by decide
      have after : Mark "\x60" := by decide
      simp [constraints, after.clear_after, before.clear_before]

/-- The row of a field is one of five cells just in case the texts that are put into it are
clear. -/
theorem isRow_fieldRow_iff
    {m : Model} {f : Field} :
  IsRow 5 (fieldRow m f) ↔ Tabular m f
  := by
  have opening : Mark "<code>" := by decide
  have closing : Mark "</code>" := by decide
  have required : Clear (if f.isOptional then "" else requiredMark) := by split <;> decide
  have row := @isRow_row_iff [f.name, "<code>" ++ fieldType m f ++ "</code>",
    if f.isOptional then "" else requiredMark, description f.decorators,
    "<br>".intercalate (constraints f.validator)]
  rw [fieldRow]
  apply row.trans
  simp only [List.forall_mem_cons, closing.clear_after, opening.clear_before, required,
    clear_fieldType_iff, clear_description_iff, clear_constraints_iff, true_and]
  constructor
  · rintro ⟨name, type, union, pattern, -⟩
    exact ⟨name, type, union, pattern⟩
  · rintro ⟨name, type, union, pattern⟩
    exact ⟨name, type, union, pattern, List.forall_mem_nil _⟩

end ConceptModel.Printer.Markdown

import ConceptModel.Proofs.Printer.WellFormed

/-!
# What the text of a field says

The lines of a well-formed field say what the field is, and are told apart from whatever lines
come after them: `delimited_field`.  On the line of a field stand its type, its name and its
modifiers, one after the other; each of them is told apart from what may follow it there.
-/

namespace ConceptModel.Printer.Cto

open Text

/-! ### Names -/

/-- An identifier ends where a delimiter follows. -/
theorem delimited_identifier :
  Delimited String.toList IsIdentifier (Stops (· ∉ delimiters))
  := by
  constructor
  intro s t r r' hs ht hr hr' same
  have solid {s : String} (h : IsIdentifier s) : ∀ c ∈ s.toList, c ∉ delimiters :=
    fun c mem delimiter => h.notMem delimiter mem
  obtain ⟨name, rest⟩ := (delimited_run (· ∉ delimiters)).split (solid hs) (solid ht) hr hr' same
  exact ⟨String.toList_inj.mp name, rest⟩

/-! ### Decorators -/

/-- The characters of the arguments of a decorator, with their parentheses. -/
def argumentChars : List String → List Char
  | [] => []
  | first :: rest =>
    '(' :: ((literal first).toList ++ (rest.flatMap (fun s => ',' :: (literal s).toList) ++ [')']))

theorem toList_intercalate_literals (first : String) (rest : List String) :
  (",".intercalate ((first :: rest).map literal)).toList
    = (literal first).toList ++ rest.flatMap fun s => ',' :: (literal s).toList
  := by
  induction rest generalizing first with
  | nil => simp
  | cons second rest ih =>
    rw [List.map_cons, List.map_cons, String.intercalate_cons_cons, ← List.map_cons,
      String.toList_append, String.toList_append, ih second, List.flatMap_cons, List.append_assoc]
    rfl

/-- A decorator is its mark, its name and its arguments. -/
theorem toList_decorator (d : Decorator) :
  (decorator d).toList = '@' :: (d.name.toList ++ argumentChars d.arguments)
  := by
  obtain ⟨name, arguments⟩ := d
  cases arguments with
  | nil => simp [decorator, argumentChars]
  | cons first rest =>
    simp only [decorator, argumentChars, List.isEmpty_cons, Bool.false_eq_true, if_false,
      String.toList_append, toList_intercalate_literals, List.append_assoc]
    rfl

/-- Printed arguments tell the arguments. -/
theorem argumentChars_injective
    {xs ys : List String} (h : argumentChars xs = argumentChars ys) :
  xs = ys
  := by
  have comma := (Json.delimited_quote true).append_left [',']
  have others := comma.flatMap (R := fun r => r = [')']) (fun _ _ _ _ => trivial) <| by
    rintro s _ - rfl ⟨r, h⟩
    simp at h
  cases xs with
  | nil =>
    cases ys with
    | nil => rfl
    | cons => contradiction
  | cons x xs =>
    cases ys with
    | nil => contradiction
    | cons y ys =>
      obtain ⟨rfl, rest⟩ := (Json.delimited_quote true).split trivial trivial trivial trivial
        (List.cons.inj h).2
      obtain ⟨rfl, -⟩ := others.split (fun _ _ => trivial) (fun _ _ => trivial) rfl rfl rest
      rfl

theorem stops_argumentChars (xs : List String) :
  Stops (· ∉ delimiters) (argumentChars xs)
  := by
  cases xs with
  | nil => exact stops_nil
  | cons => exact stops_cons.mpr (by decide)

/-- Printed decorators tell the decorators. -/
theorem decorator_injective
    {d e : Decorator} (hd : IsIdentifier d.name) (he : IsIdentifier e.name)
    (h : decorator d = decorator e) :
  d = e
  := by
  rw [← String.toList_inj, toList_decorator, toList_decorator] at h
  obtain ⟨name, rest⟩ := delimited_identifier.split hd he (stops_argumentChars _)
    (stops_argumentChars _) (List.cons.inj h).2
  have arguments := argumentChars_injective rest
  cases d
  cases e
  simp_all

/-! ### Default values -/

/-- What a blank sets apart ends no number. -/
theorem stops_integerChars
    {r : List Char} (h : Stops (· ≠ ' ') r) :
  Stops (· ∈ integerChars) r
  := by
  intro c first mem
  obtain rfl := not_not.mp (h c first)
  exact absurd mem (by decide)

/-- Printed truth values are told apart whatever follows. -/
theorem flag_injective
    {a b : Bool} {r s : List Char}
    (h : (defaultValue (.flag a)).toList ++ r = (defaultValue (.flag b)).toList ++ s) :
  a = b ∧ r = s
  := by cases a <;> cases b <;> simp_all [defaultValue]

/-- A default value is told apart from what goes on with a blank. -/
theorem delimited_defaultValue :
  Delimited (fun value => (defaultValue value).toList) Literal.Exact (Stops (· ≠ ' '))
  := by
  have flag_integer {a : Bool} {n : Int} {r s : List Char} :
      (defaultValue (.flag a)).toList ++ r ≠ (toString n).toList ++ s := by
    obtain ⟨c, cs, text, mem⟩ := exists_head_toString n
    rw [text]
    intro h
    cases a with
    | false =>
      obtain rfl : 'f' = c := (List.cons.inj h).1
      exact absurd mem (by decide)
    | true =>
      obtain rfl : 't' = c := (List.cons.inj h).1
      exact absurd mem (by decide)
  have flag_text {a : Bool} {t : String} {r s : List Char} :
      (defaultValue (.flag a)).toList ++ r ≠ (literal t).toList ++ s := by
    rw [literal, Json.toList_quote]
    cases a <;> simp [defaultValue]
  have integer_text {n : Int} {t : String} {r s : List Char} :
      (toString n).toList ++ r ≠ (literal t).toList ++ s := by
    obtain ⟨c, cs, text, mem⟩ := exists_head_toString n
    rw [literal, Json.toList_quote, text]
    rintro h
    obtain rfl := (List.cons.inj h).1
    exact absurd mem (by decide)
  constructor
  rintro _ _ r s (a | m | t) (b | n | u) hr hs same
  · obtain ⟨rfl, rest⟩ := flag_injective same
    exact ⟨rfl, rest⟩
  · exact absurd same flag_integer
  · exact absurd same flag_text
  · exact absurd same.symm flag_integer
  · obtain ⟨rfl, rest⟩ := delimited_int.split trivial trivial (stops_integerChars hr)
      (stops_integerChars hs) same
    exact ⟨rfl, rest⟩
  · exact absurd same integer_text
  · exact absurd same.symm flag_text
  · exact absurd same.symm integer_text
  · obtain ⟨rfl, rest⟩ := (Json.delimited_quote true).split trivial trivial trivial trivial same
    exact ⟨rfl, rest⟩

/-! ### Validators -/

/-- A bound ends where no character of integers follows. -/
theorem delimited_bound :
  Delimited (fun x : Option Int => (bound (x.map .int)).toList) (fun _ => True)
    (Stops (· ∈ integerChars))
  := by
  have some_none {n : Int} {r s : List Char} (h : Stops (· ∈ integerChars) s) :
      (toString n).toList ++ r ≠ s := by
    rintro rfl
    obtain ⟨c, cs, text, mem⟩ := exists_head_toString n
    rw [text] at h
    exact stops_cons.mp h mem
  constructor
  rintro (- | m) (- | n) r s - - hr hs same
  · exact ⟨rfl, same⟩
  · exact absurd same.symm (some_none hr)
  · exact absurd same (some_none hs)
  · obtain ⟨rfl, rest⟩ := delimited_int.split trivial trivial hr hs same
    exact ⟨rfl, rest⟩

/-- The characters of a range. -/
theorem delimited_range
    {l l' u u' : Option Int} {r s : List Char}
    (h : "range=[".toList ++ ((bound (l.map .int)).toList ++ (',' :: ((bound (u.map .int)).toList
        ++ (']' :: r))))
      = "range=[".toList ++ ((bound (l'.map .int)).toList ++ (',' :: ((bound (u'.map .int)).toList
        ++ (']' :: s))))) :
  l = l' ∧ u = u' ∧ r = s
  := by
  have comma : ',' ∉ integerChars := by decide
  have closing : ']' ∉ integerChars := by decide
  obtain ⟨rfl, upper⟩ := delimited_bound.split trivial trivial (stops_cons.mpr comma)
    (stops_cons.mpr comma) (List.append_cancel_left h)
  obtain ⟨rfl, rest⟩ := delimited_bound.split trivial trivial (stops_cons.mpr closing)
    (stops_cons.mpr closing) (List.cons.inj upper).2
  exact ⟨rfl, rfl, (List.cons.inj rest).2⟩

/-- A validator is told apart from whatever comes after it, for a field of a given type. -/
theorem delimited_validator (type : FieldType) :
  Delimited (fun v => (validator v).toList) (·.Fits type) (fun _ => True)
  := by
  constructor
  rintro v w r s hv hw - - same
  cases hv with
  | double l u =>
    cases hw with
    | double l' u' =>
      obtain ⟨rfl, rfl, rest⟩ := delimited_range (by simpa [validator] using same)
      exact ⟨rfl, rest⟩
  | integer l u =>
    cases hw with
    | integer l' u' =>
      obtain ⟨rfl, rfl, rest⟩ := delimited_range (by simpa [validator] using same)
      exact ⟨rfl, rest⟩
  | @string p slash =>
    cases hw with
    | @string q slash' =>
      have after : "regex=/".toList ++ (p.toList ++ ('/' :: r))
          = "regex=/".toList ++ (q.toList ++ ('/' :: s)) := by
        simpa [validator, Json.plain] using same
      obtain ⟨pattern, rest⟩ := (delimited_run (· ≠ '/')).split
        (fun c mem => ne_of_mem_of_not_mem mem slash) (fun c mem => ne_of_mem_of_not_mem mem slash')
        (by simp) (by simp) (List.append_cancel_left after)
      obtain rfl := String.toList_inj.mp pattern
      exact ⟨rfl, (List.cons.inj rest).2⟩

/-! ### Modifiers -/

/-- The characters of the modifier for optional fields. -/
def optionalChars (isOptional : Bool) : List Char := if isOptional then " optional".toList else []

/-- The characters of a validator after a blank, and of what comes after it. -/
def validatorChars (v : Option Validator) (isOptional : Bool) : List Char :=
  (v.elim [] fun v => " ".toList ++ (validator v).toList) ++ optionalChars isOptional

/-- The characters of the modifiers of a field, each after a blank. -/
def modifierChars (f : Field) : List Char :=
  (f.defaultValue.elim [] fun value => " default=".toList ++ (defaultValue value).toList)
    ++ validatorChars f.validator f.isOptional

/-- The modifiers of a field are printed after one another. -/
theorem toList_modifiers (f : Field) :
  (String.join ((modifiers f).map (" " ++ ·))).toList = modifierChars f
  := by
  cases value : f.defaultValue <;> cases v : f.validator <;> cases o : f.isOptional <;>
    simp [modifiers, modifierChars, validatorChars, optionalChars, value, v, o]

theorem optionalChars_injective
    {a b : Bool} (h : optionalChars a = optionalChars b) :
  a = b
  := by cases a <;> cases b <;> simp_all [optionalChars]

theorem prefix_validator (v : Validator) :
  " r".toList <+: " ".toList ++ (validator v).toList
  := by
  cases v with
  | doubleRange => exact ⟨_, by simp [validator]; rfl⟩
  | integerRange => exact ⟨_, by simp [validator]; rfl⟩
  | regex => exact ⟨_, by simp [validator]; rfl⟩

/-- What comes after a default value is set apart by a blank, and is no default value. -/
theorem validatorChars_opens (v : Option Validator) (isOptional : Bool) :
  Stops (· ≠ ' ') (validatorChars v isOptional) ∧
    ¬ " d".toList <+: validatorChars v isOptional
  := by
  cases v with
  | none => cases isOptional <;> simp [validatorChars, optionalChars]
  | some v =>
    obtain ⟨rest, text⟩ := prefix_validator v
    have opened : validatorChars (some v) isOptional
        = ' ' :: 'r' :: (rest ++ optionalChars isOptional) := by
      rw [validatorChars, Option.elim_some, ← text]
      rfl
    simp [opened]

/-- The modifiers of fields of the same type say what they are. -/
theorem modifierChars_injective
    {f g : Field} (hf : f.WellFormed) (hg : g.WellFormed) (type : f.type = g.type)
    (h : modifierChars f = modifierChars g) :
  f.defaultValue = g.defaultValue ∧ f.validator = g.validator ∧ f.isOptional = g.isOptional
  := by
  have defaults := (delimited_defaultValue.append_left " default=".toList).optional " d".toList
    fun _ _ => ⟨_, rfl⟩
  have validators := ((delimited_validator f.type).append_left " ".toList).optional " r".toList
    fun v _ => prefix_validator v
  have ends (isOptional : Bool) : True ∧ ¬ " r".toList <+: optionalChars isOptional := by
    cases isOptional <;> simp [optionalChars]
  obtain ⟨default, rest⟩ := defaults.split hf.defaultValue hg.defaultValue
    (validatorChars_opens _ _) (validatorChars_opens _ _) h
  obtain ⟨validator, optional⟩ := validators.split hf.validator (type ▸ hg.validator)
    (ends _) (ends _) rest
  exact ⟨default, validator, optionalChars_injective optional⟩

/-! ### Fields -/

/-- The names of well-formed types tell the types. -/
theorem typeName_injective
    {t u : FieldType} (ht : t.WellFormed) (hu : u.WellFormed) (h : t.name = u.name) :
  t = u
  := by cases t <;> cases u <;> simp_all [FieldType.name, FieldType.WellFormed, primitiveNames]

/-- The characters after the type of a field with an array for its value. -/
def arrayChars (isArray : Bool) : List Char := if isArray then "[]".toList else []

/-- A field is its type, its brackets, its name and its modifiers. -/
theorem toList_fieldLine (f : Field) :
  (fieldLine f).toList
    = "  o ".toList ++ (f.type.name.toList ++ (arrayChars f.isArray
      ++ (' ' :: (f.name.toList ++ modifierChars f))))
  := by
  rw [fieldLine, String.toList_append, toList_modifiers]
  cases array : f.isArray <;> simp [fieldType, arrayChars, array]

theorem stops_arrayChars (isArray : Bool) (rest : List Char) :
  Stops (· ∉ delimiters) (arrayChars isArray ++ ' ' :: rest)
  := by cases isArray <;> exact stops_cons.mpr (by decide)

/-- Modifiers start with a delimiter, if there are any. -/
theorem stops_modifierChars
    {f : Field} :
  Stops (· ∉ delimiters) (modifierChars f)
  := by
  have blank {r : List Char} (h : Stops (· ≠ ' ') r) : Stops (· ∉ delimiters) r := by
    intro c first
    obtain rfl := not_not.mp (h c first)
    decide
  unfold modifierChars
  cases f.defaultValue with
  | none => exact blank (validatorChars_opens _ _).1
  | some value => exact stops_cons.mpr (by decide)

/-- The line of a field says all of it but its decorators. -/
theorem fieldLine_injective
    {f g : Field} (hf : f.WellFormed) (hg : g.WellFormed) (h : fieldLine f = fieldLine g) :
  { f with decorators := g.decorators } = g
  := by
  rw [← String.toList_inj, toList_fieldLine, toList_fieldLine] at h
  obtain ⟨typeName, afterType⟩ := (delimited_run (· ∉ delimiters)).split (notMem_typeName hf.type)
    (notMem_typeName hg.type) (stops_arrayChars _ _) (stops_arrayChars _ _)
    (List.append_cancel_left h)
  have type := typeName_injective hf.type hg.type (String.toList_inj.mp typeName)
  have array : f.isArray = g.isArray ∧
      f.name.toList ++ modifierChars f = g.name.toList ++ modifierChars g := by
    revert afterType
    cases f.isArray <;> cases g.isArray <;> simp [arrayChars]
  obtain ⟨name, afterName⟩ := delimited_identifier.split hf.name hg.name stops_modifierChars
    stops_modifierChars array.2
  obtain ⟨default, validator, optional⟩ := modifierChars_injective hf hg type afterName
  obtain ⟨isArray, -⟩ := array
  cases f
  cases g
  simp_all

/-- Whether a line is that of a decorator of a field. -/
def IsDecoratorLine (l : String) : Prop := "  @".toList <+: l.toList

/-- A field is told apart from whatever lines come after it. -/
theorem delimited_field :
  Delimited field Field.WellFormed (fun _ => True)
  := by
  have above := delimited_map (P := fun d : Decorator => IsIdentifier d.name)
    (f := fun d => "  " ++ decorator d) (p := IsDecoratorLine)
    (fun d e hd he same => decorator_injective hd he (by simpa using same))
    fun d _ => ⟨d.name.toList ++ argumentChars d.arguments, by simp [toList_decorator]⟩
  have below (f : Field) : ¬ IsDecoratorLine (fieldLine f) := by
    simp [IsDecoratorLine, toList_fieldLine]
  constructor
  intro f g r s hf hg _ _ same
  simp only [field, List.append_assoc] at same
  obtain ⟨decorators, rest⟩ := above.split hf.decorators hg.decorators
    (stops_cons.mpr (below f)) (stops_cons.mpr (below g)) same
  obtain ⟨line, after⟩ := List.cons.inj rest
  have others := fieldLine_injective hf hg line
  rw [← decorators] at others
  exact ⟨others, after⟩

end ConceptModel.Printer.Cto

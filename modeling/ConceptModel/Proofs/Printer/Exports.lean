import ConceptModel.Printer.TypeScript
import ConceptModel.Proofs.Printer.Lines
import Mathlib.Data.List.Nodup
import Mathlib.Data.List.Pairwise

/-!
# Exports of TypeScript texts

A text exports an interface for each concept and an enum for each enumeration, if nothing that is
printed of the model breaks a line.  Interfaces start with a given text, while enums do not, so an
interface and an enum may have one name although no two declarations have: `exports_of_model`.
But for that, a field of a declared type refers to what is exported for the declaration, or to
`string` where nothing is.
-/

namespace ConceptModel.Printer.TypeScript

/-! ### Lines that export -/

/-- What stands in a line between two texts. -/
def inside? (before after l : String) : Option String := do
  let rest ← l.toList.dropPrefix? before.toList
  let name ← rest.dropSuffix? after.toList
  return String.ofList name

/-- The name that a line exports. -/
def exportOf? (l : String) : Option String :=
  inside? "export interface " " \x7b" l <|> inside? "export enum " " \x7b" l

/-- The names that the lines of a text export. -/
def exportsOf (text : String) : List String := (linesOf text).filterMap exportOf?

/-- A text stands between two others just in case the line is made of the three. -/
theorem inside?_eq_some
    {before after l name : String} :
  inside? before after l = some name ↔ l = before ++ name ++ after
  := by
  rw [← @String.toList_inj l]
  simp only [inside?, Option.bind_eq_bind, Option.bind_eq_some_iff, List.dropPrefix?_eq_some_iff,
    List.dropSuffix?_eq_some_iff, beq_iff_eq, Option.pure_def, Option.some.injEq,
    String.toList_append, List.append_assoc]
  constructor
  · rintro ⟨_, ⟨_, spelled, rfl⟩, cs, ⟨_, rfl, rfl⟩, rfl⟩
    rw [spelled, String.toList_ofList]
  · intro spelled
    exact ⟨_, ⟨_, spelled, rfl⟩, name.toList, ⟨_, rfl, rfl⟩, String.ofList_toList⟩

/-- A line exports a name just in case it opens an interface or an enum of this name. -/
theorem exportOf?_eq_some
    {l name : String} :
  exportOf? l = some name ↔
    l = "export interface " ++ name ++ " \x7b" ∨ l = "export enum " ++ name ++ " \x7b"
  := by
  have apart {s t : String} :
      "export interface " ++ s ++ " \x7b" ≠ "export enum " ++ t ++ " \x7b" := by
    intro same
    have := congrArg String.toList same
    simp at this
  rw [← inside?_eq_some, ← inside?_eq_some, exportOf?]
  cases interface : inside? "export interface " " \x7b" l with
  | none => simp
  | some s =>
    have noEnum : inside? "export enum " " \x7b" l ≠ some name := by
      rw [Ne, inside?_eq_some, inside?_eq_some.mp interface]
      exact apart
    simp [noEnum]

/-- A line that does not start like an export exports nothing. -/
theorem exportOf?_eq_none
    {l : String} (h : l.toList.head? ≠ some 'e') :
  exportOf? l = none
  := by
  rw [Option.eq_none_iff_forall_ne_some]
  intro name exported
  obtain rfl | rfl := exportOf?_eq_some.mp exported <;> simp at h

/-- Unbroken lines export what each of them exports. -/
theorem exportsOf_lines
    {ls : List String} (h : Unbroken ls) :
  exportsOf (lines ls) = ls.filterMap exportOf?
  := by
  have blank : exportOf? "" = none := exportOf?_eq_none (by decide)
  simp [exportsOf, linesOf_lines, flatMap_linesOf h, blank]

/-- A comment before unbroken lines exports nothing. -/
theorem exportsOf_commented
    {comment : Option String} {ls : List String} (solid : ∀ c ∈ comment, Solid c)
    (h : Unbroken ls) :
  exportsOf (commentLine (comment.map ("// " ++ ·)) ++ lines ls) = ls.filterMap exportOf?
  := by
  cases comment with
  | none => simpa [commentLine] using exportsOf_lines h
  | some c =>
    have mark : Solid "// " := by decide
    have first : Solid ("// " ++ c) := solid_append.mpr ⟨mark, solid c rfl⟩
    have hidden : exportOf? ("// " ++ c) = none := exportOf?_eq_none (by simp)
    have joined : commentLine (some ("// " ++ c)) ++ lines ls = lines (("// " ++ c) :: ls) := by
      simp [commentLine, lines, String.join_cons]
    rw [Option.map_some, joined, exportsOf_lines (unbroken_cons.mpr ⟨first, h⟩),
      List.filterMap_cons_none hidden]

/-! ### Declarations -/

/-- The name that is exported for a declaration. -/
def exportedName? (start : String) : Declaration → Option String
  | .concept name _ _ => some (start ++ name)
  | .enumeration name _ => some name
  | .scalar .. | .plain _ => none

section

variable {m : Model} {start : String} {d : Declaration}

/-- Only a declaration that is no more than a name is not printed. -/
theorem declaration?_eq_none_iff :
  declaration? start m d = none ↔ ∃ name, d = .plain name
  := by
  cases d <;> simp [declaration?]

/-- Whether nothing that is printed of a declaration breaks a line. -/
def SolidDeclaration (start : String) (m : Model) : Declaration → Prop
  | .concept name _ fields =>
    Solid start ∧ Solid name ∧ ∀ f ∈ fields, Solid f.name ∧ Solid (fieldType start m f)
  | .enumeration name values => Solid name ∧ ∀ value ∈ values, Solid value
  | .scalar .. | .plain _ => True

instance : DecidablePred (SolidDeclaration start m)
  | .concept .. => inferInstanceAs (Decidable (_ ∧ _))
  | .enumeration .. => inferInstanceAs (Decidable (_ ∧ _))
  | .scalar .. => isTrue trivial
  | .plain _ => isTrue trivial

/-- The line of a field is unbroken if its name and its type are. -/
theorem solid_fieldLine
    {f : Field} (name : Solid f.name) (type : Solid (fieldType start m f)) :
  Solid (fieldLine start m f)
  := by
  have indentation : Solid "    " := by decide
  have mark : Solid (if f.isOptional then "?" else "") := by split <;> decide
  have colon : Solid ": " := by decide
  have semicolon : Solid ";" := by decide
  simp [fieldLine, indentation, name, mark, colon, type, semicolon]

/-- The lines of a declaration are unbroken if nothing in it breaks a line. -/
theorem unbroken_declaration
    {block : List String} (printed : declaration? start m d = some block)
    (solid : SolidDeclaration start m d) :
  Unbroken block
  := by
  have opening : Solid " \x7b" := by decide
  have closing : Solid "\x7d" := by decide
  have blank : Solid "" := by decide
  cases d with
  | concept name isAbstract fields =>
    obtain rfl := Option.some.inj printed
    obtain ⟨solidStart, solidName, solidFields⟩ := solid
    have keyword : Solid "export interface " := by decide
    have type : Solid "    $class: string;" := by decide
    have inside : Unbroken (fields.map (fieldLine start m)) :=
      List.forall_mem_map.mpr fun f mem =>
        solid_fieldLine (solidFields f mem).1 (solidFields f mem).2
    simp [keyword, solidStart, solidName, opening, type, inside, closing, blank]
  | enumeration name values =>
    obtain rfl := Option.some.inj printed
    obtain ⟨solidName, solidValues⟩ := solid
    have keyword : Solid "export enum " := by decide
    have indentation : Solid "    " := by decide
    have equals : Solid " = '" := by decide
    have comma : Solid "'," := by decide
    have inside : Unbroken (values.map fun value => "    " ++ value ++ " = '" ++ value ++ "',") :=
      List.forall_mem_map.mpr fun value mem => by
        simp [indentation, solidValues value mem, equals, comma]
    simp [keyword, solidName, opening, inside, closing, blank]
  | scalar =>
    obtain rfl := Option.some.inj printed
    exact unbroken_nil
  | plain => simp [declaration?] at printed

theorem exportOf?_fieldLine
    (f : Field) :
  exportOf? (fieldLine start m f) = none
  := by
  apply exportOf?_eq_none
  simp [fieldLine]

theorem exportOf?_closing :
  ["\x7d", ""].filterMap exportOf? = []
  := by
  have brace : exportOf? "\x7d" = none := exportOf?_eq_none (by decide)
  have blank : exportOf? "" = none := exportOf?_eq_none (by decide)
  simp [brace, blank]

/-- The lines of a declaration export its name, if they export one. -/
theorem exports_of_declaration
    {block : List String} (printed : declaration? start m d = some block) :
  block.filterMap exportOf? = (exportedName? start d).toList
  := by
  cases d with
  | concept name isAbstract fields =>
    obtain rfl := Option.some.inj printed
    have opens : exportOf? ("export interface " ++ start ++ name ++ " \x7b")
        = some (start ++ name) := by
      rw [exportOf?_eq_some]
      exact .inl (by simp only [String.append_assoc])
    have type : exportOf? "    $class: string;" = none := exportOf?_eq_none (by decide)
    have inside : (fields.map (fieldLine start m)).filterMap exportOf? = [] := by
      simp [exportOf?_fieldLine]
    rw [List.filterMap_append, List.filterMap_append, inside, exportOf?_closing]
    simp [opens, type, exportedName?]
  | enumeration name values =>
    obtain rfl := Option.some.inj printed
    have opens : exportOf? ("export enum " ++ name ++ " \x7b") = some name :=
      exportOf?_eq_some.mpr (.inr rfl)
    have inside : (values.map fun value => "    " ++ value ++ " = '" ++ value ++ "',").filterMap
        exportOf? = [] := by
      simp [exportOf?_eq_none]
    rw [List.filterMap_append, List.filterMap_append, inside, exportOf?_closing]
    simp [opens, exportedName?]
  | scalar =>
    obtain rfl := Option.some.inj printed
    rfl
  | plain => simp [declaration?] at printed

/-! ### Types -/

/-- With distinct names a declaration is found by its name. -/
theorem find?_of_mem
    (apart : (m.declarations.map Declaration.name).Nodup) (mem : d ∈ m.declarations) :
  m.find? d.name = some d
  := by
  unfold Model.find?
  cases search : m.declarations.find? fun e => e.name = d.name with
  | none => simpa using List.find?_eq_none.mp search d mem
  | some e =>
    have named : e.name = d.name := by simpa using List.find?_some search
    rw [List.inj_on_of_nodup_map apart (List.mem_of_find?_eq_some search) mem named]

/-- The name of a declaration is read as what is exported for it, and as `string` if nothing is. -/
theorem typeName_of_mem
    (apart : (m.declarations.map Declaration.name).Nodup) (mem : d ∈ m.declarations)
    (printed : declaration? start m d ≠ none) (free : d.name ∉ primitives.map Prod.fst) :
  typeName start m d.name = (exportedName? start d).getD "string"
  := by
  have noPrimitive : primitives.lookup d.name = none := by
    rw [List.lookup_eq_none_iff]
    intro entry held
    rw [bne_iff_ne]
    rintro same
    exact free (same ▸ List.mem_map_of_mem held)
  rw [typeName, noPrimitive, find?_of_mem apart mem]
  cases d with
  | concept | enumeration | scalar => rfl
  | plain => simp [declaration?] at printed

/-! ### Models -/

theorem mem_conceptNames
    {name : String} :
  name ∈ m.conceptNames ↔ ∃ isAbstract fields, .concept name isAbstract fields ∈ m.declarations
  := by
  simp only [Model.conceptNames, List.mem_filterMap]
  constructor
  · rintro ⟨d, mem, named⟩
    cases d <;> simp at named
    obtain rfl := named
    exact ⟨_, _, mem⟩
  · rintro ⟨isAbstract, fields, mem⟩
    exact ⟨_, mem, rfl⟩

theorem mem_enumerationNames
    {name : String} :
  name ∈ m.enumerationNames ↔ ∃ values, .enumeration name values ∈ m.declarations
  := by
  simp only [Model.enumerationNames, List.mem_filterMap]
  constructor
  · rintro ⟨d, mem, named⟩
    cases d <;> simp at named
    obtain rfl := named
    exact ⟨_, mem⟩
  · rintro ⟨values, mem⟩
    exact ⟨_, mem, rfl⟩

/-- A name is exported for a concept after the given text, and for an enumeration as it is. -/
theorem exportedName?_eq_some
    {name : String} :
  exportedName? start d = some name ↔
    (∃ base isAbstract fields, d = .concept base isAbstract fields ∧ name = start ++ base) ∨
      ∃ values, d = .enumeration name values
  := by
  cases d <;> simp [exportedName?, eq_comm]

/-- No exported name repeats just in case no enum has the name of an interface. -/
theorem nodup_exportedNames_iff
    (apart : (m.declarations.map Declaration.name).Nodup) :
  (m.declarations.filterMap (exportedName? start)).Nodup ↔
    ∀ name ∈ m.conceptNames, start ++ name ∉ m.enumerationNames
  := by
  rw [List.Nodup, List.pairwise_filterMap]
  constructor
  · intro exported name isConcept isEnumeration
    obtain ⟨isAbstract, fields, mem⟩ := mem_conceptNames.mp isConcept
    obtain ⟨values, mem'⟩ := mem_enumerationNames.mp isEnumeration
    have : Std.Symm fun d e : Declaration => ∀ name, exportedName? start d = some name →
        ∀ name', exportedName? start e = some name' → name ≠ name' :=
      ⟨fun d e differ name named name' named' => (differ name' named' name named).symm⟩
    exact exported.forall mem mem' (by simp) _ rfl _ rfl rfl
  · intro free
    apply List.Pairwise.imp_of_mem _ (List.pairwise_map.mp apart)
    rintro d e memD memE differ name named _ named' rfl
    obtain ⟨base, _, _, rfl, rfl⟩ | ⟨_, rfl⟩ := exportedName?_eq_some.mp named
    · obtain ⟨base', _, _, rfl, same⟩ | ⟨_, rfl⟩ := exportedName?_eq_some.mp named'
      · exact differ ((String.append_right_inj _).mp same)
      · exact free base (mem_conceptNames.mpr ⟨_, _, memD⟩) (mem_enumerationNames.mpr ⟨_, memE⟩)
    · obtain ⟨base', _, _, rfl, rfl⟩ | ⟨_, rfl⟩ := exportedName?_eq_some.mp named'
      · exact free base' (mem_conceptNames.mpr ⟨_, _, memE⟩) (mem_enumerationNames.mpr ⟨_, memD⟩)
      · exact differ rfl

/-- A list is mapped just in case each of its elements is. -/
theorem mapM_eq_some_iff
    {α β : Type} {f : α → Option β} {xs : List α} {ys : List β} :
  xs.mapM f = some ys ↔ List.Forall₂ (fun x y => f x = some y) xs ys
  := by
  induction xs generalizing ys with
  | nil => simp [eq_comm]
  | cons x xs ih =>
    simp only [List.mapM_cons, Option.bind_eq_bind, Option.bind_eq_some_iff, Option.pure_def,
      Option.some.injEq, ih, List.forall₂_cons_left_iff]
    grind

/-- A list is not mapped just in case one of its elements is not. -/
theorem mapM_eq_none_iff
    {α β : Type} {f : α → Option β} {xs : List α} :
  xs.mapM f = none ↔ ∃ x ∈ xs, f x = none
  := by
  induction xs with
  | nil => simp
  | cons x xs ih =>
    rw [List.mapM_cons, Option.bind_eq_bind, Option.bind_eq_none_iff]
    cases held : f x with
    | none => simp [held]
    | some y =>
      have others : (∃ e ∈ x :: xs, f e = none) ↔ ∃ e ∈ xs, f e = none := by simp [held]
      rw [others, ← ih]
      cases xs.mapM f <;> simp

theorem exists_mem_of_forall₂
    {α β : Type} {R : α → β → Prop} {xs : List α} {ys : List β} (h : List.Forall₂ R xs ys) {x : α}
    (mem : x ∈ xs) :
  ∃ y ∈ ys, R x y
  := by
  induction h with
  | nil => simp at mem
  | cons first _ ih =>
    obtain rfl | later := List.mem_cons.mp mem
    · exact ⟨_, List.mem_cons_self, first⟩
    · obtain ⟨y, held, related⟩ := ih later
      exact ⟨y, List.mem_cons_of_mem _ held, related⟩

/-- The lines of declarations export their names, one after the other. -/
theorem filterMap_exportOf?_flatten
    {ds : List Declaration} {blocks : List (List String)}
    (printed : List.Forall₂ (fun d block => declaration? start m d = some block) ds blocks) :
  blocks.flatten.filterMap exportOf? = ds.filterMap (exportedName? start)
  := by
  induction printed with
  | nil => rfl
  | @cons d block ds blocks first _ ih =>
    rw [List.flatten_cons, List.filterMap_append, exports_of_declaration first, ih]
    cases held : exportedName? start d <;> simp [held]

theorem filterMap_exportOf?_heading :
  (heading m).filterMap exportOf? = []
  := by
  have rules : exportOf? "/* eslint-disable @typescript-eslint/no-empty-interface */" = none :=
    exportOf?_eq_none (by decide)
  have named : exportOf? ("// Generated code for namespace: " ++ m.namespaceName.plain) = none :=
    exportOf?_eq_none (by simp)
  have blank : exportOf? "" = none := exportOf?_eq_none (by decide)
  have title : exportOf? "// interfaces" = none := exportOf?_eq_none (by decide)
  simp [heading, rules, named, blank, title]

/-- The lines before the declarations are unbroken if the namespace is. -/
theorem unbroken_heading
    (h : Solid m.namespaceName.plain) :
  Unbroken (heading m)
  := by
  have rules : Solid "/* eslint-disable @typescript-eslint/no-empty-interface */" := by decide
  have named : Solid "// Generated code for namespace: " := by decide
  have blank : Solid "" := by decide
  have title : Solid "// interfaces" := by decide
  simp [heading, rules, named, h, blank, title]

/-- Whether nothing that is printed of a model under a comment breaks a line: neither the comment
nor the namespace, nor the names, the types and the values in its declarations. -/
structure SolidModel (comment : Option String) (start : String) (m : Model) : Prop where
  comment : ∀ c ∈ comment, Solid c
  namespaceName : Solid m.namespaceName.plain
  declarations : ∀ d ∈ m.declarations, SolidDeclaration start m d

/-- The lines of declarations are unbroken if nothing in these breaks a line. -/
theorem unbroken_flatten
    {ds : List Declaration} {blocks : List (List String)}
    (printed : List.Forall₂ (fun d block => declaration? start m d = some block) ds blocks)
    (solid : ∀ d ∈ ds, SolidDeclaration start m d) :
  Unbroken blocks.flatten
  := by
  induction printed with
  | nil => exact unbroken_nil
  | cons first _ ih =>
    rw [List.forall_mem_cons] at solid
    rw [List.flatten_cons, unbroken_append]
    exact ⟨unbroken_declaration first solid.1, ih solid.2⟩

/-- Lines among others stand in their text. -/
theorem infix_toList_lines
    {ls ks : List String} (h : ls <:+: ks) :
  (lines ls).toList <:+: (lines ks).toList
  := by
  obtain ⟨before, after, rfl⟩ := h
  simp only [toList_lines, List.flatMap_append]
  exact List.infix_append _ _ _

/-- The text of a model, which there is unless a declaration is only a name, exports the concepts
and the enumerations, one after the other, if nothing that is printed breaks a line.  No two
exports then have one name just in case no enumeration is named like an interface.  The interface
of a concept stands in any text, and what its fields print for a declaration that is not named like
a primitive type is the name that is exported for it, or `string` for a scalar. -/
theorem exports_of_model
    (apart : (m.declarations.map Declaration.name).Nodup) (comment : Option String)
    (start : String) :
  (model? comment start m = none ↔ ∃ name, .plain name ∈ m.declarations) ∧
  ∀ text, model? comment start m = some text →
    (SolidModel comment start m →
      exportsOf text = m.declarations.filterMap (exportedName? start) ∧
      ((exportsOf text).Nodup ↔
        ∀ name ∈ m.conceptNames, start ++ name ∉ m.enumerationNames)) ∧
    ∀ name isAbstract fields, .concept name isAbstract fields ∈ m.declarations →
      (lines (["export interface " ++ start ++ name ++ " \x7b", "    $class: string;"]
        ++ fields.map (fieldLine start m) ++ ["\x7d", ""])).toList <:+: text.toList ∧
      ∀ f ∈ fields, ∀ d ∈ m.declarations, f.type = .declared d.name →
        d.name ∉ primitives.map Prod.fst →
        fieldLine start m f = "    " ++ f.name ++ (if f.isOptional then "?" else "") ++ ": "
          ++ (exportedName? start d).getD "string" ++ (if f.isArray then "[]" else "") ++ ";"
  := by
  constructor
  · rw [model?, Option.map_eq_none_iff, mapM_eq_none_iff]
    simp only [declaration?_eq_none_iff]
    grind
  · intro text printed
    obtain ⟨blocks, all, rfl⟩ := Option.map_eq_some_iff.mp printed
    have each := mapM_eq_some_iff.mp all
    constructor
    · intro solid
      have unbroken : Unbroken (heading m ++ blocks.flatten) :=
        unbroken_append.mpr
          ⟨unbroken_heading solid.namespaceName, unbroken_flatten each solid.declarations⟩
      rw [exportsOf_commented solid.comment unbroken, List.filterMap_append,
        filterMap_exportOf?_heading, filterMap_exportOf?_flatten each, List.nil_append]
      exact ⟨rfl, nodup_exportedNames_iff apart⟩
    · intro name isAbstract fields mem
      constructor
      · obtain ⟨block, held, shown⟩ := exists_mem_of_forall₂ each mem
        obtain rfl := Option.some.inj shown
        rw [String.toList_append]
        exact (infix_toList_lines ((List.infix_of_mem_flatten held).trans
          (List.suffix_append _ _).isInfix)).trans (List.suffix_append _ _).isInfix
      · intro f _ d mem isDeclared free
        have shown : declaration? start m d ≠ none := by
          obtain ⟨block, _, shown⟩ := exists_mem_of_forall₂ each mem
          simp [shown]
        rw [fieldLine, fieldType, isDeclared, FieldType.name, typeName_of_mem apart mem shown free]
        cases f.isArray <;> simp [String.append_assoc]

end

/-- Cars with their drivers. -/
def fleet : Model where
  namespaceName := .string "org.acme"
  declarations :=
    [.concept "Car" false
        [{ name := "drivers", type := .declared "Driver", isArray := true },
          { name := "colour", type := .declared "Colour", isOptional := true },
          { name := "notes", type := .declared "Notes" }],
      .concept "Driver" false [], .enumeration "Colour" ["red"], .scalar "Notes" []]

/-- The lines of the interface of a car. -/
def carLines : List String :=
  ["export interface ICar \x7b", "    $class: string;", "    drivers: IDriver[];",
    "    colour?: Colour;", "    notes: string;", "\x7d", ""]

/-- The cars and their drivers are exported as interfaces, their colours as an enum. -/
theorem exports_of_model_fleet :
  ∃ text, model? none "I" fleet = some text ∧ exportsOf text = ["ICar", "IDriver", "Colour"] ∧
    (exportsOf text).Nodup ∧ (lines carLines).toList <:+: text.toList
  := by
  obtain ⟨prints, exports⟩ := exports_of_model (m := fleet) (by decide) none "I"
  have printed : model? none "I" fleet ≠ none := by
    rw [Ne, prints]
    simp [fleet]
  obtain ⟨text, printed⟩ := Option.ne_none_iff_exists'.mp printed
  obtain ⟨exported, interfaces⟩ := exports text printed
  have solid : SolidModel none "I" fleet :=
    { comment := by simp
      namespaceName := by decide
      declarations := by decide +kernel }
  obtain ⟨names, distinct⟩ := exported solid
  have shown : [{ name := "drivers", type := .declared "Driver", isArray := true },
      { name := "colour", type := .declared "Colour", isOptional := true },
      { name := "notes", type := .declared "Notes" }].map (fieldLine "I" fleet) =
      ["    drivers: IDriver[];", "    colour?: Colour;", "    notes: string;"] := by decide +kernel
  have car := (interfaces "Car" false _ List.mem_cons_self).1
  rw [shown] at car
  exact ⟨text, printed, names.trans (by decide +kernel), distinct.mpr (by decide +kernel), car⟩

/-- What a text exports, read off its lines. -/
theorem exportsOf_of_lines
    {text : Option String} {ls names : List String} (spelled : text = some (lines ls))
    (unbroken : Unbroken ls) (exported : ls.filterMap exportOf? = names) :
  text.map exportsOf = some names
  := by
  rw [spelled, Option.map_some, exportsOf_lines unbroken, exported]

/-- Declarations of two names, whose exports have one. -/
def icons : Model where
  namespaceName := .string "org.acme"
  declarations := [.concept "con" false [], .enumeration "Icon" ["plus"]]

/-- The lines of the interface and of the enum. -/
def iconLines : List String :=
  ["export interface Icon \x7b", "    $class: string;", "\x7d", "", "export enum Icon \x7b",
    "    plus = 'plus',", "\x7d", ""]

/-- A concept with a field whose name breaks lines. -/
def torn : Model where
  namespaceName := .string "org.acme"
  declarations :=
    [.concept "Root" false
      [{ name := "x: string;\n\x7d\nexport interface IRoot \x7b\n    y", type := .string }]]

/-- The lines that look like two interfaces. -/
def tornLines : List String :=
  ["export interface IRoot \x7b", "    $class: string;", "    x: string;", "\x7d",
    "export interface IRoot \x7b", "    y: string;", "\x7d", ""]

/-- A concept that is named like a primitive type, and one that refers to it. -/
def shadowed : Model where
  namespaceName := .string "org.acme"
  declarations :=
    [.concept "String" false [],
      .concept "Note" false [{ name := "text", type := .declared "String" }]]

/-- The lines of both interfaces. -/
def shadowedLines : List String :=
  ["export interface IString \x7b", "    $class: string;", "\x7d", "",
    "export interface INote \x7b", "    $class: string;", "    text: string;", "\x7d", ""]

/-- Although the names of declarations differ, an enumeration may be named like an interface, a
field may break lines, a concept may be named like a primitive type, and a declaration may be only
a name. -/
theorem exportsOf_icons :
  ((icons.declarations.map Declaration.name).Nodup ∧
      (model? none "I" icons).map exportsOf = some ["Icon", "Icon"]) ∧
    ((torn.declarations.map Declaration.name).Nodup ∧
      (model? none "I" torn).map exportsOf = some ["IRoot", "IRoot"]) ∧
    ((shadowed.declarations.map Declaration.name).Nodup ∧
      (model? none "I" shadowed).map exportsOf = some ["IString", "INote"] ∧
      typeName "I" shadowed "String" = "string") ∧
    model? none "I" { namespaceName := .string "org.acme", declarations := [.plain "A"] } = none
  := by
  have iconNames : (model? none "I" icons).map exportsOf = some ["Icon", "Icon"] :=
    have unbroken : Unbroken (heading icons ++ iconLines) := by decide +kernel
    exportsOf_of_lines (by decide +kernel) unbroken (by decide +kernel)
  have tornNames : (model? none "I" torn).map exportsOf = some ["IRoot", "IRoot"] :=
    have unbroken : Unbroken (heading torn ++ tornLines) := by decide +kernel
    exportsOf_of_lines (by decide +kernel) unbroken (by decide +kernel)
  have shadowedNames : (model? none "I" shadowed).map exportsOf = some ["IString", "INote"] :=
    have unbroken : Unbroken (heading shadowed ++ shadowedLines) := by decide +kernel
    exportsOf_of_lines (by decide +kernel) unbroken (by decide +kernel)
  exact ⟨⟨by decide, iconNames⟩, ⟨by decide, tornNames⟩, ⟨by decide, shadowedNames, by decide⟩, rfl⟩

end ConceptModel.Printer.TypeScript

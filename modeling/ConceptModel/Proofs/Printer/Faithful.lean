import ConceptModel.Proofs.Printer.FieldText

/-!
# What Concerto texts say

The text of a well-formed model says what the model is: `model_inj`.  It consists of lines,
and each line and each block of lines is told apart from what comes after it.  Only a plain
declaration, which prints no more than a blank line, loses its name, and those at the end
are lost altogether.
-/

namespace ConceptModel

open Text

/-! ### What is shown -/

/-- A declaration without the name of a plain one. -/
def Declaration.shown : Declaration → Declaration
  | plain _ => plain ""
  | d => d

/-- A declaration that says nothing. -/
def Declaration.isSilent (d : Declaration) : Bool := d = .plain ""

/-- A model without the names of its plain declarations, and without those at its end. -/
def Model.shown (m : Model) : Model :=
  { m with declarations := (m.declarations.map Declaration.shown).rdropWhile Declaration.isSilent }

/-- Whether a declaration is a concept, an enumeration or a scalar. -/
def Declaration.Concrete : Declaration → Prop
  | plain _ => False
  | _ => True

/-- A model of concepts, enumerations and scalars is shown as it is. -/
theorem Model.shown_eq_self
    {m : Model} (h : ∀ d ∈ m.declarations, d.Concrete) :
  m.shown = m
  := by
  have same : ∀ d ∈ m.declarations, d.shown = d := by
    intro d mem
    have := h d mem
    cases d with
    | plain => contradiction
    | concept | enumeration | scalar => rfl
  have loud : m.declarations.rdropWhile Declaration.isSilent = m.declarations := by
    rw [List.rdropWhile_eq_self_iff]
    intro filled silent
    have := h _ (List.getLast_mem filled)
    rw [of_decide_eq_true silent] at this
    contradiction
  rw [Model.shown, List.map_congr_left same, List.map_id'', loud]
  exact fun _ => rfl

namespace Printer.Cto

/-! ### Declarations -/

/-- The lines of a declaration after the blank one. -/
def body : Declaration → List String
  | .concept name _ fields =>
    ("concept " ++ name ++ " \x7b") :: (fields.flatMap field ++ ["\x7d"])
  | .enumeration name values =>
    ("enum " ++ name ++ " \x7b") :: (values.map ("  o " ++ ·) ++ ["\x7d"])
  | .scalar name decorators =>
    decorators.map decorator ++ ["scalar " ++ name ++ " extends String"]
  | .plain _ => []

theorem declaration_eq (d : Declaration) :
  declaration d = "" :: body d
  := by cases d <;> simp [declaration, body]

theorem append_injective
    {s t before after : String} (h : before ++ s ++ after = before ++ t ++ after) :
  s = t
  := by
  rw [← String.toList_inj] at h ⊢
  simpa using h

/-- The first character of lines. -/
def opening (ls : List String) : Option Char := ls.head?.bind (·.toList.head?)

/-- A concept opens with its own letter. -/
@[simp]
theorem opening_concept
    {name : String} {isAbstract : Bool} {fields : List Field} :
  opening (body (.concept name isAbstract fields)) = some 'c'
  := by simp [opening, body]

/-- An enumeration opens with its own letter. -/
@[simp]
theorem opening_enumeration
    {name : String} {values : List String} :
  opening (body (.enumeration name values)) = some 'e'
  := by simp [opening, body]

/-- A declaration that is only a name has nothing to open with. -/
@[simp]
theorem opening_plain
    {name : String} :
  opening (body (.plain name)) = none
  := rfl

/-- A scalar opens unlike the others. -/
@[simp]
theorem opening_scalar
    {name : String} {decorators : List Decorator} :
  opening (body (.scalar name decorators)) ≠ some 'c' ∧
    opening (body (.scalar name decorators)) ≠ some 'e' ∧
    opening (body (.scalar name decorators)) ≠ none
  := by
  cases decorators with
  | nil => simp [opening, body]
  | cons d ds => simp [opening, body, toList_decorator]

/-- Lines of well-formed fields tell the fields. -/
theorem fields_injective
    {fs gs : List Field} (hf : ∀ f ∈ fs, f.WellFormed) (hg : ∀ g ∈ gs, g.WellFormed)
    (h : fs.flatMap field ++ ["\x7d"] = gs.flatMap field ++ ["\x7d"]) :
  fs = gs
  := by
  have fields := delimited_field.flatMap (R := (· = ["\x7d"])) (fun _ _ _ _ => trivial) <| by
    rintro f _ - rfl ⟨r, closed⟩
    cases decorators : f.decorators with
    | nil => simp [field, decorators, fieldLine, ← String.toList_inj] at closed
    | cons d ds => simp [field, decorators, ← String.toList_inj] at closed
  exact (fields.split hf hg rfl rfl h).1

/-- Lines of decorators and of a scalar tell both. -/
theorem decorators_injective
    {ds es : List Decorator} (hd : ∀ d ∈ ds, IsIdentifier d.name)
    (he : ∀ e ∈ es, IsIdentifier e.name) {s t : String}
    (h : ds.map decorator ++ ["scalar " ++ s ++ " extends String"]
      = es.map decorator ++ ["scalar " ++ t ++ " extends String"]) :
  ds = es ∧ s = t
  := by
  have above := delimited_map (P := fun d : Decorator => IsIdentifier d.name) (f := decorator)
    (p := fun l : String => "@".toList <+: l.toList)
    (fun d e hd he same => decorator_injective hd he same)
    fun d _ => ⟨d.name.toList ++ argumentChars d.arguments, by simp [toList_decorator]⟩
  have below (s : String) : Stops (fun l : String => "@".toList <+: l.toList)
      ["scalar " ++ s ++ " extends String"] := stops_cons.mpr (by simp)
  obtain ⟨decorators, last⟩ := above.split hd he (below s) (below t) h
  exact ⟨decorators, append_injective (List.cons.inj last).1⟩

/-- What is printed of a declaration says all that is shown of it. -/
theorem body_injective
    {d e : Declaration} (hd : d.WellFormed) (he : e.WellFormed) (h : body d = body e) :
  d.shown = e.shown
  := by
  have kinds := congrArg opening h
  cases d with
  | concept name isAbstract fields =>
    cases e with
    | concept name' isAbstract' fields' =>
      obtain ⟨first, rest⟩ := List.cons.inj h
      obtain rfl := append_injective first
      obtain rfl := fields_injective hd.2.2 he.2.2 rest
      rw [hd.2.1, he.2.1]
    | enumeration | plain => simp at kinds
    | scalar => exact absurd kinds.symm (by simp)
  | enumeration name values =>
    cases e with
    | enumeration name' values' =>
      obtain ⟨first, rest⟩ := List.cons.inj h
      obtain rfl := append_injective first
      obtain rfl : values = values' := by
        simpa [List.map_inj_right] using rest
      rfl
    | concept | plain => simp at kinds
    | scalar => exact absurd kinds.symm (by simp)
  | scalar name decorators =>
    cases e with
    | scalar name' decorators' =>
      obtain ⟨rfl, rfl⟩ := decorators_injective hd.2 he.2 h
      rfl
    | concept | enumeration | plain => exact absurd kinds (by simp)
  | plain name =>
    cases e with
    | plain => rfl
    | concept | enumeration => simp at kinds
    | scalar => exact absurd kinds.symm (by simp)

/-! ### Models -/

theorem nonblank_body (d : Declaration) :
  ∀ l ∈ body d, l ≠ ""
  := by
  have filled {s t : String} (h : s ≠ "") : s ++ t ≠ "" := by simp [h]
  have ends {f : Field} {l : String} (mem : l ∈ field f) : l ≠ "" := by
    obtain above | line := List.mem_append.mp mem
    · obtain ⟨d, -, rfl⟩ := List.mem_map.mp above
      exact filled (by decide)
    · obtain rfl := List.mem_singleton.mp line
      simp [fieldLine]
  intro l mem
  cases d with
  | concept name isAbstract fields =>
    simp only [body, List.mem_cons, List.mem_append, List.mem_flatMap, List.not_mem_nil,
      or_false] at mem
    obtain rfl | ⟨f, -, inside⟩ | rfl := mem
    · simp
    · exact ends inside
    · decide
  | enumeration name values =>
    simp only [body, List.mem_cons, List.mem_append, List.mem_map, List.not_mem_nil,
      or_false] at mem
    obtain rfl | ⟨value, -, rfl⟩ | rfl := mem
    · simp
    · simp
    · decide
  | scalar name decorators =>
    simp only [body, List.mem_append, List.mem_map, List.mem_singleton] at mem
    obtain ⟨d, -, rfl⟩ | rfl := mem
    · simp [← String.toList_inj, toList_decorator]
    · simp
  | plain => contradiction

/-- The declarations of a model begin with a blank line, if there are any. -/
theorem stops_declarations (ds : List Declaration) :
  Stops (· ≠ "") (ds.flatMap declaration)
  := by
  cases ds with
  | nil => exact stops_nil
  | cons d ds =>
    rw [List.flatMap_cons, declaration_eq]
    exact stops_cons.mpr (not_not.mpr rfl)

/-- What is shown of a declaration is printed like it. -/
theorem body_shown (d : Declaration) :
  body d.shown = body d
  := by cases d <;> rfl

/-- Whether this is what is shown of a well-formed declaration. -/
def IsShown (d : Declaration) : Prop := ∃ e : Declaration, e.WellFormed ∧ e.shown = d

/-- Lines of shown declarations tell the declarations. -/
theorem declarations_injective
    {ds es : List Declaration} (hd : ∀ d ∈ ds, IsShown d) (he : ∀ e ∈ es, IsShown e)
    (h : ds.flatMap declaration = es.flatMap declaration) :
  ds = es
  := by
  have block := ((delimited_run (· ≠ "")).append_left [""]).flatMap (R := (· = [])) (by
    rintro (- | ⟨b, bs⟩) r - rfl
    · exact stops_nil
    · exact stops_cons.mpr (not_not.mpr rfl)) <| by
    rintro b _ - rfl ⟨r, h⟩
    contradiction
  have bodies := delimited_map (f := body) (P := IsShown) (p := fun _ => True)
    (by
      rintro _ _ ⟨d, hd, rfl⟩ ⟨e, he, rfl⟩ same
      rw [body_shown, body_shown] at same
      exact body_injective hd he same) fun _ _ => trivial
  have nonblank (ds : List Declaration) : ∀ b ∈ ds.map body, ∀ l ∈ b, l ≠ "" := by
    rintro b mem
    obtain ⟨d, -, rfl⟩ := List.mem_map.mp mem
    exact nonblank_body d
  have blocks : (ds.map body).flatMap (fun b => [""] ++ id b)
      = (es.map body).flatMap (fun b => [""] ++ id b) := by
    rw [funext declaration_eq] at h
    simpa [List.flatMap_map] using h
  exact bodies.eq hd he stops_nil (block.eq (nonblank ds) (nonblank es) rfl blocks)

/-- A declaration that is not plain ends with a line that is not blank. -/
theorem rdropWhile_concrete
    {d : Declaration} (h : d.Concrete) (ls : List String) :
  (ls ++ declaration d).rdropWhile isBlankLine = ls ++ declaration d
  := by
  have filled : body d ≠ [] := by cases d <;> simp_all [body, Declaration.Concrete]
  obtain ⟨front, last, split⟩ := (List.eq_nil_or_concat' _).resolve_left filled
  have nonblank := nonblank_body d last (by simp [split])
  have whole : ls ++ declaration d = (ls ++ "" :: front) ++ [last] := by
    simp [declaration_eq, split]
  rw [whole, List.rdropWhile_concat_neg _ _ _ (by simpa [isBlankLine] using nonblank)]

/-- Trimming the blank lines after declarations leaves what is shown of them. -/
theorem rdropWhile_declarations
    {ls : List String} (h : ls.rdropWhile isBlankLine = ls) (ds : List Declaration) :
  (ls ++ ds.flatMap declaration).rdropWhile isBlankLine
    = ls ++ ((ds.map Declaration.shown).rdropWhile Declaration.isSilent).flatMap declaration
  := by
  induction ds using List.reverseRecOn with
  | nil => simpa using h
  | append_singleton ds d ih =>
    have loud (concrete : d.Concrete) (kept : d.shown = d) :
        (ls ++ (ds ++ [d]).flatMap declaration).rdropWhile isBlankLine
          = ls ++ (((ds ++ [d]).map Declaration.shown).rdropWhile Declaration.isSilent).flatMap
            declaration := by
      have shown : (ds.map Declaration.shown).flatMap declaration = ds.flatMap declaration := by
        simp only [funext declaration_eq, List.flatMap_map, body_shown]
      have audible : ¬ d.isSilent = true := by
        intro silent
        rw [of_decide_eq_true silent] at concrete
        exact concrete
      rw [List.map_append, List.map_singleton, kept, List.rdropWhile_concat_neg _ _ _ audible,
        List.flatMap_append, List.flatMap_append, shown, List.flatMap_singleton,
        ← List.append_assoc, rdropWhile_concrete concrete]
    cases d with
    | concept | enumeration | scalar => exact loud trivial rfl
    | plain name =>
      rw [List.flatMap_append, List.map_append, List.map_singleton, List.flatMap_singleton,
        ← List.append_assoc, List.rdropWhile_concat_pos Declaration.isSilent _ _ rfl, ← ih]
      exact List.rdropWhile_concat_pos isBlankLine _ _ rfl

/-- The lines of a model, with others above them, but for the blank ones at the end are those
of what is shown. -/
theorem rdropWhile_modelLines
    {above : List String} (filled : "" ∉ above) (m : Model) :
  (above ++ modelLines m).rdropWhile isBlankLine = above ++ modelLines m.shown
  := by
  simp only [modelLines, ← List.append_assoc]
  apply rdropWhile_declarations
  rw [List.rdropWhile_eq_self_iff]
  intro nonempty blank
  have mem := List.getLast_mem nonempty
  rw [of_decide_eq_true blank] at mem
  simp [filled] at mem

/-- What is shown of a well-formed model can be told. -/
theorem isShown_of_mem_shown
    {m : Model} (h : m.WellFormed) :
  ∀ d ∈ m.shown.declarations, IsShown d
  := by
  intro d mem
  obtain ⟨e, held, rfl⟩ := List.mem_map.mp ((List.rdropWhile_prefix _ _).subset mem)
  exact ⟨e, h.declarations e held, rfl⟩

/-- The lines of a model say all that is shown of it. -/
theorem modelLines_injective
    {m n : Model} (hm : m.WellFormed) (hn : n.WellFormed)
    (h : modelLines m.shown = modelLines n.shown) :
  m.shown = n.shown
  := by
  have importLines := delimited_map (P := fun _ : String => True) (f := ("import " ++ ·))
    (p := (· ≠ "")) (fun i j _ _ same => by simpa using same) fun i _ => by simp
  obtain ⟨s, namespaceName, -⟩ := hm.namespaceName
  obtain ⟨t, namespaceName', -⟩ := hn.namespaceName
  simp only [modelLines, List.singleton_append] at h
  obtain ⟨first, rest⟩ := List.cons.inj h
  obtain ⟨imports, blocks⟩ := importLines.split (fun _ _ => trivial) (fun _ _ => trivial)
    (stops_declarations _) (stops_declarations _) rest
  have declarations := declarations_injective (isShown_of_mem_shown hm) (isShown_of_mem_shown hn)
    blocks
  have decorators : m.decorators = n.decorators := by rw [hm.decorators, hn.decorators]
  obtain rfl : s = t := by
    simpa [Model.shown, namespaceName, namespaceName', Json.plain] using first
  cases m
  cases n
  simp_all [Model.shown]

/-! ### Texts -/

/-- A model of a mailbox whose owner has a given default value. -/
def mailbox (owner : Literal) : Model where
  namespaceName := .string "org.acme@1.0.0"
  imports := ["org.acme.base.Address"]
  declarations :=
    [.concept "Mailbox" false
      [{ name := "owner"
         type := .string
         decorators := [⟨"alias", ["to", "a \"b\", c"]⟩]
         defaultValue := some owner
         validator := some (.regex (.string "[a-z ]+") "")
         isOptional := true },
       { name := "limits", type := .integer, isArray := true
         validator := some (.integerRange none (some (.int 100))) },
       { name := "kind", type := .declared "Kind" }],
     .enumeration "Kind" ["private", "shared"],
     .scalar "Note" [⟨"stringified", []⟩]]

theorem isIdentifier_of_normal
    {s : String} (h : normalizeIdentifier s = s) :
  IsIdentifier s
  := h ▸ isIdentifier_normalizeIdentifier s

theorem wellFormed_mailbox
    {owner : Literal} (h : owner.Exact) :
  (mailbox owner).WellFormed
  := by
  have names : ∀ name ∈ ["Mailbox", "owner", "alias", "limits", "kind", "Kind", "private", "shared",
      "Note", "stringified"], IsIdentifier name := by
    intro name mem
    have normal : ∀ name ∈ ["Mailbox", "owner", "alias", "limits", "kind", "Kind",
        "private", "shared", "Note", "stringified"], normalizeIdentifier name = name := by
      decide +kernel
    exact isIdentifier_of_normal (normal name mem)
  constructor
  · exact ⟨_, rfl, by decide⟩
  · exact (by decide : ∀ i ∈ ["org.acme.base.Address"], Solid i)
  · simp only [mailbox, List.forall_mem_cons, List.not_mem_nil, false_imp_iff, implies_true,
      and_true]
    refine ⟨⟨names _ (by simp), rfl, ?_⟩, ⟨names _ (by simp), ?_⟩, names _ (by simp), ?_⟩
    · simp only [List.forall_mem_cons, List.not_mem_nil, false_imp_iff, implies_true, and_true]
      refine ⟨⟨names _ (by simp), trivial, ?_, ?_, ?_⟩, ⟨names _ (by simp), trivial, ?_, ?_, ?_⟩,
        ⟨names _ (by simp), ⟨names _ (by simp), by decide⟩, ?_, ?_, ?_⟩⟩
      · simpa using names _ (by simp)
      · simpa using h
      · simpa using Validator.Fits.string (by decide) (by decide)
      · simp
      · simp
      · simpa using Validator.Fits.integer none (some 100)
      · simp
      · simp
      · simp
    · simp [names]
    · simp [names]
  · rfl

end Printer.Cto

end ConceptModel

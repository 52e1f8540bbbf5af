import ConceptModel.Proofs.Inference.Consult
import ConceptModel.Proofs.Inference.FieldNames
import ConceptModel.Proofs.Inference.Integrity

/-!
# What is lost with a name

Of the declarations of one name that a document brings forth only the first stays, and those
of different places may come to one name, as paths are joined and normalized.  But what is
declared of one schema under one path is one declaration, however often it is visited.  The
references that are being followed meanwhile show only in a property whose own reference comes
to one of them, and a visit is `Steady` when no such property lies below it.  So a declaration
that is dropped is the one that stays, if both are declared at one place: `kept_of_place`.
-/

namespace ConceptModel.Inference

open Relation Text

/-! ### Visits of one place -/

/-- Whether a visit is a property whose reference comes to one that is being followed. -/
def Meets (x : Visit) : Prop :=
  x.1.role = .property ∧ (Body.ofJson x.1.body).propertyRule = .reference ∧
    ∃ t ∈ x.2.traversed, Ahead x.2.document x.2.container
      ⟨.reference, (Body.ofJson x.1.body).getD "$ref", x.1.path⟩ t

/-- Whether no property below a visit comes to a reference that is being followed. -/
def Steady (x : Visit) : Prop := ∀ y, ReflTransGen HandsOn x y → ¬ Meets y

/-- What a steady visit hands on to is steady. -/
theorem Steady.handsOn
    {x y : Visit} (steady : Steady x) (h : HandsOn x y) :
  Steady y
  := by
  intro z reached
  exact steady z (.head h reached)

/-- Whether two contexts differ at most in the references that are being followed, as far as
the inside of a document is concerned. -/
structure Context.Matches (c d : Context) : Prop where
  document : d.document = c.document
  container : d.container = c.container
  overrides : d.overrides = c.overrides
  required : d.required = c.required

section

variable {c d : Context} (same : c.Matches d)
include same

theorem Context.Matches.bare :
  c.bare.Matches d.bare
  := ⟨same.document, same.container, rfl, same.required⟩

theorem Context.Matches.override
    (f : Overrides → Overrides) :
  Context.Matches { c with overrides := f c.overrides } { d with overrides := f d.overrides }
  := ⟨same.document, same.container, congrArg f same.overrides, same.required⟩

/-- Fields take the same from contexts that match. -/
theorem fieldBase_of_matches
    (name : String) :
  fieldBase name d = fieldBase name c
  := by
  simp only [fieldBase, same.overrides, same.required]

/-- What is being followed does not show in what a steady property consults. -/
theorem gist_of_consulted
    {v : Json} {path : List String} {found found' : Results}
    (rule : (Body.ofJson v).propertyRule = .reference)
    (steady : Steady (⟨.property, v, path⟩, c)) (steady' : Steady (⟨.property, v, path⟩, d))
    (h : Reads ⟨.reference, (Body.ofJson v).getD "$ref", path⟩ c.bare found)
    (h' : Reads ⟨.reference, (Body.ofJson v).getD "$ref", path⟩ d.bare found') :
  gist found = gist found'
  := by
  apply gist_of_reads h h' rfl same.document same.container
  intro t ahead
  constructor
  · intro mem
    exact absurd ⟨rfl, rule, t, mem, ahead⟩ (steady _ .refl)
  · intro mem
    have ahead' : Ahead d.document d.container
        ⟨.reference, (Body.ofJson v).getD "$ref", path⟩ t := by
      rw [same.document, same.container]
      exact ahead
    exact absurd ⟨rfl, rule, t, mem, ahead'⟩ (steady' _ .refl)

end

/-- Two steady readings of properties, while different references are being followed, yield the
same fields. -/
theorem fields_of_reads
    {f : Fragment} {c d : Context} {found found' : Results} (h : Reads f c found)
    (h' : Reads f d found') (role : f.role.isOfProperty = true ∨ f.role = .properties)
    (same : c.Matches d) (steady : Steady (f, c)) (steady' : Steady (f, d)) :
  found.flatten.filterMap Found.field? = found'.flatten.filterMap Found.field?
  := by
  -- Both readings take the same rule: the schema decides on it, but for a reference, where
  -- `dropped`, `deferral` and `referral` are told apart by the gist of what is consulted.
  induction h generalizing d found' with
  | @properties fields path c results each ih =>
    cases h' with
    | @properties _ _ _ results' each' =>
      simp only [Nested.flatten_ofList, List.filterMap_flatMap]
      apply List.flatMap_congr
      rintro ⟨key, v⟩ mem
      exact ih _ mem (each' _ mem) (.inl rfl) same (steady.handsOn (.member mem))
        (steady'.handsOn (.member mem))
  | reserved name =>
    cases h' with
    | reserved => rfl
    | _ => simp_all
  | choice name rule =>
    cases h' with
    | choice _ rule' =>
      obtain rfl := by simpa using rule.symm.trans rule'
      rw [fieldBase_of_matches same]
    | _ => simp_all
  | alternation name rule _ ih =>
    cases h' with
    | alternation _ _ next' =>
      exact ih next' (.inl rfl) same (steady.handsOn (.alternation name rule))
        (steady'.handsOn (.alternation name rule))
    | _ => simp_all
  | dropped name rule consulted =>
    cases h' with
    | dropped => rfl
    | deferral _ _ consulted' =>
      simpa using gist_of_consulted same rule steady steady' consulted consulted'
    | referral _ _ consulted' names =>
      have gist := gist_of_consulted same rule steady steady' consulted consulted'
      simp [gist_of_referencedName names] at gist
    | _ => simp_all
  | @deferral v path _ _ _ _ name rule consulted _ _ ih =>
    cases h' with
    | dropped _ _ consulted' =>
      simpa using gist_of_consulted same rule steady steady' consulted consulted'
    | deferral _ _ consulted' next' =>
      have gist := gist_of_consulted same rule steady steady' consulted consulted'
      obtain ⟨rfl, rfl⟩ := by simpa using gist
      exact ih next' (.inl rfl) (same.override fun _ => { name := some (nameOf path) })
        (steady.handsOn (.deferral name rule consulted))
        (steady'.handsOn (.deferral name rule consulted'))
    | referral _ _ consulted' names =>
      have gist := gist_of_consulted same rule steady steady' consulted consulted'
      simp [gist_of_referencedName names] at gist
    | _ => simp_all
  | referral name rule consulted names =>
    cases h' with
    | dropped _ _ consulted' | deferral _ _ consulted' =>
      have gist := gist_of_consulted same rule steady steady' consulted consulted'
      simp [gist_of_referencedName names] at gist
    | referral _ _ consulted' names' =>
      have gist := gist_of_consulted same rule steady steady' consulted consulted'
      obtain rfl := by
        simpa [gist_of_referencedName names, gist_of_referencedName names'] using gist
      rw [fieldBase_of_matches same]
    | _ => simp_all
  | array name rule _ ih =>
    cases h' with
    | array _ _ next' =>
      exact ih next' (.inl rfl) same (steady.handsOn (.array name rule))
        (steady'.handsOn (.array name rule))
    | _ => simp_all
  | @union v path c types _ name rule _ ih =>
    cases h' with
    | union _ rule' next' =>
      obtain rfl := by simpa using rule.symm.trans rule'
      exact ih next' (.inl rfl)
        (same.override fun o => { o with decorators := some [stringifiedUnion types] })
        (steady.handsOn (.union name rule)) (steady'.handsOn (.union name rule))
    | _ => simp_all
  | freeform name rule =>
    cases h' with
    | freeform => rw [fieldBase_of_matches same]
    | _ => simp_all
  | inline name rule next =>
    cases h' with
    | inline _ _ next' =>
      simp [Nested.flatten, Nested.flattenAll, List.filterMap_cons, fieldBase_of_matches same,
        filterMap_field?_of_reads next, filterMap_field?_of_reads next']
    | _ => simp_all
  | primitive name rule built =>
    cases h' with
    | primitive _ _ built' =>
      rw [fieldBase_of_matches same] at built'
      obtain rfl := by simpa using built.symm.trans built'
      rfl
    | _ => simp_all
  | tupleAsConcept held rule _ ih =>
    cases h' with
    | tupleAsConcept _ _ next' =>
      exact ih next' (.inl rfl) same (steady.handsOn (.tupleAsConcept held rule))
        (steady'.handsOn (.tupleAsConcept held rule))
    | tupleAsText _ other => simp [rule] at other
    | items held' noArray =>
      obtain rfl := by simpa using held.symm.trans held'
      simp [Json.isArray] at noArray
  | tupleAsText held rule _ ih =>
    cases h' with
    | tupleAsText _ _ next' =>
      exact ih next' (.inl rfl) same (steady.handsOn (.tupleAsText held rule))
        (steady'.handsOn (.tupleAsText held rule))
    | tupleAsConcept _ other => simp [rule] at other
    | items held' noArray =>
      obtain rfl := by simpa using held.symm.trans held'
      simp [Json.isArray] at noArray
  | items held noArray _ ih =>
    cases h' with
    | items held' _ next' =>
      obtain rfl := by simpa using held.symm.trans held'
      exact ih next' (.inl rfl) (same.override fun o => { o with isArray := some true })
        (steady.handsOn (.items held noArray)) (steady'.handsOn (.items held noArray))
    | tupleAsConcept held' | tupleAsText held' =>
      obtain rfl := by simpa using held.symm.trans held'
      simp [Json.isArray] at noArray
  | tuple held greatestHeld isUpTo lists leastHeld isFrom _ ih =>
    cases h' with
    | tuple held' greatestHeld' isUpTo' lists' leastHeld' isFrom' next' =>
      obtain rfl := by simpa using held.symm.trans held'
      obtain rfl := by simpa using greatestHeld.symm.trans greatestHeld'
      obtain rfl := by simpa using leastHeld.symm.trans leastHeld'
      obtain rfl := by simpa using isUpTo.symm.trans isUpTo'
      obtain rfl := by simpa using lists.symm.trans lists'
      obtain rfl := by simpa using isFrom.symm.trans isFrom'
      exact ih next' (.inl rfl) same
        (steady.handsOn (.tuple held greatestHeld isUpTo lists leastHeld isFrom))
        (steady'.handsOn (.tuple held greatestHeld isUpTo lists leastHeld isFrom))
  | _ => simp [Role.isOfProperty] at role

/-- A schema under one path announces one declaration, whatever is being followed at steady
visits of it. -/
theorem Announces.unique
    {f : Fragment} {c c' : Context} {d e : Declaration} (hd : Announces (f, c) d)
    (he : Announces (f, c') e) (sameDocument : c'.document = c.document)
    (sameContainer : c'.container = c.container)
    (bare : f.role.isOfProperty = false → c.overrides = {} ∧ c'.overrides = {})
    (steady : Steady (f, c)) (steady' : Steady (f, c')) :
  d = e
  := by
  cases hd with
  | enumeration held lists =>
    cases he with
    | enumeration held' lists' =>
      obtain rfl := by simpa using held.symm.trans held'
      obtain rfl := by simpa using lists.symm.trans lists'
      rfl
  | scalar rule =>
    cases he with
    | scalar => rfl
    | concept rule' => simp [rule] at rule'
  | @concept v path _ children rule fits isSet reads =>
    cases he with
    | scalar rule' => simp [rule] at rule'
    | concept _ _ _ reads' =>
      obtain ⟨noName, noName'⟩ := bare rfl
      have same : Context.Matches { c with required := (Body.ofJson v).required? }
          { c' with required := (Body.ofJson v).required? } :=
        ⟨sameDocument, sameContainer, noName'.trans noName.symm, rfl⟩
      rw [fields_of_reads reads reads' (.inr rfl) same
        (steady.handsOn (.concept rule fits isSet)) (steady'.handsOn (.concept rule fits isSet))]
  | choice name rule =>
    cases he with
    | choice _ rule' =>
      obtain rfl := by simpa using rule.symm.trans rule'
      rfl

/-! ### Clean visits -/

/-- What lies ahead of a fragment is referred to from what its references lead to. -/
theorem refers_of_ahead
    {document v : Json} {container : List String} {f : Fragment} {t key : String}
    (h : Ahead document container f t) (fits : f.Fits)
    (leads : LeadsTo document container t key v) :
  ∃ r ∈ f.references, ∃ first w, LeadsTo document container r first w ∧
    ReflTransGen (Refers document container) first key
  := by
  induction h with
  | structured _ _ ih => exact ih trivial leads
  | alternative _ _ ih =>
    obtain ⟨r, mem, rest⟩ := ih trivial leads
    have mem := Body.references_firstAlternative_subset mem
    exact ⟨r, Body.references_ofJson_subset mem, rest⟩
  | @aliased v path _ rule _ ih =>
    obtain ⟨r, mem, rest⟩ := ih trivial leads
    have isReference := Body.isReference_of_structuralRule rule
    exact ⟨r, references_reference_subset path isReference mem, rest⟩
  | inside rule _ ih => exact ih rule leads
  | here => exact ⟨_, mem_references_of_fits fits, key, v, leads, .refl⟩
  | followed resolves target _ ih =>
    obtain ⟨r, mem, first, w, leads', rest⟩ := ih trivial leads
    obtain ⟨before, leadsTo, -⟩ := resolve_eq_definition resolves target
    have step : Refers document container before first :=
      ⟨_, r, w, leadsTo.definition?, mem, leads'⟩
    exact ⟨_, mem_references_of_fits fits, before, _, leadsTo, .head step rest⟩

section

variable {document : Json} {container : List String} {x y : Visit}

/-- Whether every reference that is being followed leads to a definition. -/
def Led (document : Json) (container : List String) (x : Visit) : Prop :=
  ∀ t ∈ x.2.traversed, ∃ key v, LeadsTo document container t key v

/-- The references that a visit hands on lead to definitions if its own do. -/
theorem Led.handsOn
    (led : Led document container x) (inside : Inside document container x) (h : HandsOn x y) :
  Led document container y
  := by
  intro t mem
  cases proceeds_of_asks inside.role inside.fits (.handsOn h) with
  | descends _ _ traversed | defers _ _ _ _ traversed => exact led t (traversed ▸ mem)
  | follows _ _ leads _ traversed =>
    rw [inside.document_eq, inside.container_eq] at leads
    rw [traversed] at mem
    obtain rfl | mem := List.mem_cons.mp mem
    · exact ⟨_, _, leads⟩
    · exact led t mem

/-- A clean visit meets nothing that is being followed. -/
theorem Clean.not_meets
    (clean : Clean document container x) (inside : Inside document container x)
    (led : Led document container x) :
  ¬ Meets x
  := by
  rintro ⟨role, rule, t, mem, ahead⟩
  cases clean with
  | acyclic noCycle fresh =>
    -- What is followed leads on to here, and what is ahead of here leads back to it.
    rw [inside.document_eq, inside.container_eq] at ahead
    obtain ⟨key, v, leads⟩ := led t mem
    obtain ⟨r, within, first, w, leads', rest⟩ := refers_of_ahead ahead trivial leads
    have within := references_reference_subset _ (Body.isReference_of_propertyRule rule) within
    have own : x.1.references = x.1.body.references := by simp [Fragment.references, role]
    have back := fresh t mem r (own ▸ within) key v first w leads leads'
    exact noCycle key (back.trans_left rest)
  | unaliased _ none => simp [none] at mem

/-- A clean visit is steady. -/
theorem Clean.steady
    (clean : Clean document container x) (inside : Inside document container x)
    (led : Led document container x) :
  Steady x
  := by
  have kept {y : Visit} (h : ReflTransGen HandsOn x y) : Led document container y := by
    induction h with
    | refl => exact led
    | tail reached step ih => exact ih.handsOn (clean.reached inside reached).2 step
  intro y reached
  obtain ⟨clean, inside⟩ := clean.reached inside reached
  exact clean.not_meets inside (kept reached)

end

/-- In a document without cycles, or without aliases, every source is steady. -/
theorem steady_of_source
    {document : Json} {c : Context} {x : Visit} {d : Declaration}
    (harmless : Acyclic (wholeOf document) (containerOf document c.container) ∨
      NoAlias document ∧ Unaliased (wholeOf document) (containerOf document c.container))
    (fresh : c.traversed = []) (source : Source document c x d) :
  Steady x
  := by
  obtain ⟨reached, announces⟩ := source
  obtain rfl | ⟨part, step, reached⟩ := reached.cases_head
  · cases announces
  · obtain ⟨clean, inside⟩ := clean_of_part harmless fresh step
    have led : Led (wholeOf document) (containerOf document c.container) part := by
      intro t mem
      cases step with
      | root | container => simp [Context.enter, fresh] at mem
    intro y further
    exact clean.steady inside led y (reached.trans further)

/-! ### Documents -/

/-- The name of what is declared at a place. -/
def Fragment.declaredName (f : Fragment) : String :=
  normalizeName (if f.role = .property then pathName f.path else nameOf f.path)

/-- What is announced has the name of its place. -/
theorem Announces.name_eq
    {x : Visit} {d : Declaration} (h : Announces x d) :
  d.name = x.1.declaredName
  := by
  cases h <;> rfl

/-- What is found in a document stays under its name, but for what is declared at another
place: of each name the first declaration is kept, and one is dropped only for one whose place
comes to the same name.  They are the same when steady visits of the same schema under the same
path declare them, and every visit that declares is steady in a document without cycles, or
without aliases. -/
theorem kept_of_place
    {document namespaceName : Json} {metaNamespace : String} {given : List String} {ms : Models}
    (inferred : (inferModels document namespaceName metaNamespace
      (given.map .string)).outcome = .ok ms) :
  ∃ m found, ms.models = [m] ∧ Yields document (.start namespaceName metaNamespace given) found ∧
    m.declarations = distinctDeclarations found ∧
    (∀ d ∈ found, ∃ e ∈ m.declarations, firstNamed d.name found = some e ∧
      (∃ x, Source document (.start namespaceName metaNamespace given) x d) ∧
      (∃ y, Source document (.start namespaceName metaNamespace given) y e) ∧
      ∀ x y, Source document (.start namespaceName metaNamespace given) x d →
        Source document (.start namespaceName metaNamespace given) y e →
        x.1.declaredName = d.name ∧ y.1.declaredName = d.name ∧
        (x.1 = y.1 → Steady x → Steady y → d = e)) ∧
    (Acyclic (wholeOf document) (containerOf document given) ∨
        NoAlias document ∧ Unaliased (wholeOf document) (containerOf document given) →
      ∀ x d, Source document (.start namespaceName metaNamespace given) x d → Steady x)
  := by
  obtain ⟨results, reads, rfl⟩ := reads_of_inferModels inferred
  obtain ⟨found, yields, rfl⟩ := yields_of_reads reads
  have visited {x : Visit} {d : Declaration}
      (source : Source document (.start namespaceName metaNamespace given) x d) :
      Tracked x ∧ x.2.document = wholeOf document ∧ x.2.container = containerOf document given := by
    obtain ⟨reached, announces⟩ := source
    have inside : x.1.role ≠ .document := by cases announces <;> exact Role.noConfusion
    obtain ⟨tracked, sameDocument, sameContainer, -⟩ :=
      reads_of_visited inferred inside (reached.lift id fun _ _ => Asks.handsOn)
    exact ⟨tracked, sameDocument, sameContainer⟩
  use { namespaceName := namespaceName, declarations := distinctDeclarations found }, found, rfl,
    yields, rfl
  refine ⟨?_, fun harmless x d source => steady_of_source harmless rfl source⟩
  intro d mem
  obtain ⟨e, kept, named⟩ := exists_mem_distinctDeclarations mem
  use e, kept, firstNamed_eq_some.mpr ⟨kept, named⟩, yields.exists_source mem,
    yields.exists_source (mem_of_mem_distinctDeclarations kept)
  intro x y source source'
  use source.2.name_eq.symm, source'.2.name_eq.symm.trans named
  obtain ⟨tracked, sameDocument, sameContainer⟩ := visited source
  obtain ⟨tracked', sameDocument', sameContainer'⟩ := visited source'
  obtain ⟨f, c⟩ := x
  obtain ⟨g, c'⟩ := y
  intro same steady steady'
  obtain rfl : f = g := same
  apply source.2.unique source'.2 (sameDocument'.trans sameDocument.symm)
    (sameContainer'.trans sameContainer.symm) _ steady steady'
  intro role
  exact ⟨tracked.overrides role, tracked'.overrides role⟩

/-- The definitions of a card and of the address that it stands for. -/
def addressDefinitions : List (String × Json) :=
  [("Card", .object [("$ref", .string "#/definitions/Address")]),
    ("Address", .object
      [("type", .string "object"),
        ("properties", .object [("street", .object [("type", .string "string")])])])]

/-- A document with a card that is an address by another name. -/
def addressBook : Json := .object [("definitions", .object addressDefinitions)]

theorem refers_addressBook
    {key other : String}
    (h : Refers (wholeOf addressBook) (containerOf addressBook []) key other) :
  key = "Card" ∧ other = "Address"
  := by
  obtain ⟨v, r, w, held, mem, leads⟩ := h
  obtain ⟨definitions, place, held⟩ := Option.bind_eq_some_iff.mp held
  have container : (wholeOf addressBook).getPath? (placeOf (containerOf addressBook [])) =
      some (.object addressDefinitions) := by
    decide +kernel
  obtain rfl := by simpa using place.symm.trans container
  have references : ∀ e ∈ addressDefinitions, ∀ r ∈ e.2.references,
      e.1 = "Card" ∧ r = "#/definitions/Address" := by
    decide +kernel
  obtain ⟨own, rfl⟩ := references _ (Json.mem_of_lookup?_eq_some held) r mem
  have pointer : (Reference.resolve (wholeOf addressBook) (containerOf addressBook [])
      "#/definitions/Address").toOption.map Reference.Resolved.pointer =
        some (placeOf (containerOf addressBook []) ++ ["Address"]) := by
    decide +kernel
  rw [leads] at pointer
  exact ⟨own, by simpa [Except.toOption] using pointer⟩

/-- The address is visited as the card and as itself, and both visits declare the same. -/
theorem kept_of_place_addressBook :
  ∃ ms m found, (inferModels addressBook (.string "org.acme") defaultMetaNamespace
      []).outcome = .ok ms ∧ ms.models = [m] ∧
    Yields addressBook (.start (.string "org.acme") defaultMetaNamespace []) found ∧
    ∀ d ∈ found, ∃ e ∈ m.declarations, e.name = d.name ∧
      ∀ x y, Source addressBook (.start (.string "org.acme") defaultMetaNamespace []) x d →
        Source addressBook (.start (.string "org.acme") defaultMetaNamespace []) y e →
        x.1 = y.1 → d = e
  := by
  obtain ⟨ms, inferred⟩ : ∃ ms, (inferModels addressBook (.string "org.acme")
      defaultMetaNamespace []).outcome = .ok ms := Report.exists_outcome_eq_ok (by decide +kernel)
  have noCycle : Acyclic (wholeOf addressBook) (containerOf addressBook []) := by
    intro key cycle
    obtain ⟨_, first, -⟩ := TransGen.head'_iff.mp cycle
    obtain ⟨_, -, last⟩ := TransGen.tail'_iff.mp cycle
    have leaves := (refers_addressBook first).1
    have arrives := (refers_addressBook last).2
    simp [leaves] at arrives
  obtain ⟨m, found, isModel, yields, -, kept, steady⟩ := @kept_of_place _ _ _ [] ms inferred
  use ms, m, found, inferred, isModel, yields
  intro d mem
  obtain ⟨e, stays, first, -, -, same⟩ := kept d mem
  use e, stays, name_of_firstNamed first
  intro x y source source' place
  apply (same x y source source').2.2 place
  · exact steady (.inl noCycle) x d source
  · exact steady (.inl noCycle) y e source'

/-- Two forms whose keys come to one name. -/
def forms : List (String × Json) :=
  [("a b", .object
      [("type", .string "object"),
        ("properties", .object [("x", .object [("type", .string "string")])])]),
    ("a_b", .object
      [("type", .string "object"),
        ("properties", .object [("y", .object [("type", .string "number")])])])]

/-- A document with two forms whose keys come to one name. -/
def namesakes : Json := .object [("definitions", .object forms)]

/-- Of two forms of one name only the first stays, though they have different fields. -/
theorem distinctDeclarations_namesakes :
  ∃ ms m e d, (inferModels namesakes (.string "org.acme") defaultMetaNamespace
      []).outcome = .ok ms ∧ ms.models = [m] ∧
    Yields namesakes (.start (.string "org.acme") defaultMetaNamespace []) [e, d] ∧
    m.declarations = distinctDeclarations [e, d] ∧ m.declarations = [e] ∧
    e.name = d.name ∧ e.fields ≠ d.fields
  := by
  let kept : Declaration := .concept "a_b" false
    [{ name := "x", isOptional := true, type := .string }]
  let lost : Declaration := .concept "a_b" false
    [{ name := "y", isOptional := true, type := .double }]
  have named : (rootName namesakes).outcome = .ok "Root" := by decide +kernel
  have held : ((Context.start (.string "org.acme") defaultMetaNamespace []).enter
      namesakes).definitions? = some forms := by
    decide +kernel
  obtain ⟨fromRoot, first, none⟩ : ∃ r, Reads ⟨.definition, namesakes, ["Root"]⟩
      ((Context.start (.string "org.acme") defaultMetaNamespace []).enter namesakes) r ∧
      r.flatten = [] :=
    exists_reads_of_flatten 20 (by decide +kernel)
  obtain ⟨fromForms, second, both⟩ : ∃ r,
      Reads ⟨.definitions, .object forms, containerOf namesakes []⟩
        ((Context.start (.string "org.acme") defaultMetaNamespace []).enter namesakes) r ∧
      r.flatten = [.declaration kept, .declaration lost] :=
    exists_reads_of_flatten 20 (by decide +kernel)
  have yields : Yields namesakes (.start (.string "org.acme") defaultMetaNamespace [])
      [kept, lost] := by
    apply Yields.intro named first (.inl ⟨forms, held, second⟩)
    rw [none, both]
    rfl
  have inferred : (inferModels namesakes (.string "org.acme") defaultMetaNamespace
      []).outcome.toOption = some
        { models := [{ namespaceName := .string "org.acme", declarations := [kept] }] } := by
    decide +kernel
  cases outcome : (inferModels namesakes (.string "org.acme") defaultMetaNamespace []).outcome with
  | error e => simp [outcome, Except.toOption] at inferred
  | ok ms =>
    obtain rfl := by simpa [outcome, Except.toOption] using inferred
    exact ⟨_, _, kept, lost, rfl, rfl, yields, by decide, rfl, rfl, by decide⟩

end ConceptModel.Inference

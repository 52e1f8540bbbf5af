import ConceptModel.Proofs.Inference.FieldNames
import ConceptModel.Proofs.Inference.Integrity

/-!
# References to the root

A reference whose pointer is empty leads to the root of the document, at once or through
aliases: `EndsAtRoot`.  Whatever the root is called, such a reference yields the common name
of roots, and so a field that is built from it is typed by this name.  The declaration of the
root is named after the `$id` or the title of the document where there is one, and then no
field is typed by it.
-/

namespace ConceptModel.Inference

open Relation Text

/-! ### Chains to the root -/

/-- Whether the pointer of a reference is empty. -/
def PointsAtRoot (r : String) : Prop := Reference.segments? r = some []

theorem filter_splitAll_eq_nil_iff
    {cs : List Char} :
  (splitAll '/' cs).filter (!·.isEmpty) = [] ↔ ∀ c ∈ cs, c = '/'
  := by
  induction cs with
  | nil => simp [splitAll]
  | cons c rest ih =>
    rw [List.forall_mem_cons, ← ih, splitAll]
    split
    next slash => simp [slash]
    next other => split <;> simp [other]

/-- Only slashes stand after the number sign of a reference with an empty pointer. -/
theorem pointsAtRoot_iff
    {r : String} :
  PointsAtRoot r ↔ ∀ c ∈ r.toList.drop 1, c = '/'
  := by
  rw [PointsAtRoot, Reference.segments?, ← filter_splitAll_eq_nil_iff]
  cases (splitAll '/' (r.toList.drop 1)).filter (!·.isEmpty) with
  | nil => simp
  | cons part parts => simp [Option.bind_eq_some_iff]

/-- Whether the chain of alias definitions and first alternatives that a reference starts
ends at the root. -/
def EndsAtRoot (document : Json) (container : List String) (r : String) : Prop :=
  ∃ last, ReflTransGen (Onto document container) r last ∧ PointsAtRoot last

section

variable {document : Json} {container : List String} {r s key : String} {v u : Json}

/-- A reference of slashes resolves to the root. -/
theorem PointsAtRoot.resolve_eq
    (h : PointsAtRoot r) :
  Reference.resolve document container r = .ok ⟨[], .root⟩
  := by
  simp [Reference.resolve, show Reference.segments? r = some [] from h, Reference.target]

/-- A reference to the root leads to no definition. -/
theorem PointsAtRoot.not_leadsTo
    (h : PointsAtRoot r) :
  ¬ LeadsTo document container r key v
  := by
  simp [LeadsTo, h.resolve_eq]

theorem PointsAtRoot.not_onto
    (h : PointsAtRoot r) :
  ¬ Onto document container r s
  := by
  rintro ⟨key, v, -, leads, -⟩
  exact h.not_leadsTo leads

theorem EndsAtRoot.points_or_onto
    (h : EndsAtRoot document container r) :
  PointsAtRoot r ∨ ∃ s, Onto document container r s
  := by
  obtain ⟨last, chain, points⟩ := h
  obtain rfl | ⟨s, step, -⟩ := chain.cases_head
  · exact .inl points
  · exact .inr ⟨s, step⟩

/-- A chain that ends at the root does so from each of its references. -/
theorem EndsAtRoot.along
    (h : EndsAtRoot document container r) (chain : ReflTransGen (Onto document container) r s) :
  EndsAtRoot document container s
  := by
  obtain ⟨last, reached, points⟩ := h
  exact ⟨last, reaches_of_stop reached (fun _ => points.not_onto) chain, points⟩

/-- A chain that ends at the root is no cycle. -/
theorem EndsAtRoot.not_cycle
    (h : EndsAtRoot document container r) :
  ¬ TransGen (Onto document container) r r
  := by
  obtain ⟨last, reached, points⟩ := h
  exact not_cycle_of_stop reached fun _ => points.not_onto

/-- A chain that ends at the root ends at no definition. -/
theorem EndsAtRoot.not_endsAt
    (h : EndsAtRoot document container r) :
  ¬ EndsAt document container r key u
  := by
  rintro ⟨last, v, reached, leads, taken, rests⟩
  obtain ⟨root, further, points⟩ := h.along reached
  have stop := fun x => not_onto_of_rests (s := x) leads taken rests
  obtain rfl := (reflTransGen_iff_eq stop).mp further
  exact points.not_leadsTo leads

end

/-! ### What is read of a reference to the root -/

/-- Whether a fragment is read by consulting a reference: it is one, or a definition that is
one once first alternatives have been taken. -/
def StandsFor (f : Fragment) (r : String) : Prop :=
  match f.role with
  | .definition | .structural =>
    (f.role = .structural → ¬ Lists f.body) ∧ ∃ u, ReflTransGen Takes f.body u ∧ Aliases u r
  | .reference | .localReference => f.body = .string r ∧ Reference.isLocal (.string r)
  | _ => False

/-- A reference to the root that meets none of those that are being followed yields the
common name of roots. -/
theorem typeName_of_reads
    {f : Fragment} {c : Context} {found : Results} (h : Reads f c found) {r : String}
    (stands : StandsFor f r) (ends : EndsAtRoot c.document c.container r)
    (away : ∀ t ∈ c.traversed, ¬ ReflTransGen (Onto c.document c.container) r t) :
  found = .one (.typeName rootTypeName)
  := by
  have silent {v : Json} {path : List String} {r : String}
      (alternation : (Body.ofJson v).structuralRule ≠ .alternation)
      (reference : (Body.ofJson v).structuralRule ≠ .reference) :
      ¬ StandsFor ⟨.structural, v, path⟩ r := by
    rintro ⟨-, u, taken, aliases⟩
    exact not_aliases_of_rests (rests_of_structuralRule alternation reference) taken aliases
  induction h generalizing r with
  | @enumerated v _ _ _ elements lists =>
    obtain ⟨-, u, taken, aliases⟩ := stands
    have lists : Lists v := ⟨elements, lists⟩
    obtain rfl := eq_of_takes_of_rests (fun w takes => takes.1 lists) taken
    exact absurd lists aliases.1
  | structured noList _ ih =>
    obtain ⟨-, stands⟩ := stands
    exact ih ⟨fun _ => not_exists.mpr noList, stands⟩ ends away
  | scalar rule | deferred rule | unset rule | concept rule =>
    exact absurd stands (silent (by simp [rule]) (by simp [rule]))
  | firstAlternative rule _ ih =>
    obtain ⟨noList, u, taken, aliases⟩ := stands
    have step : Takes _ _ := ⟨noList rfl, rule, rfl⟩
    obtain rfl | ⟨w, step', rest⟩ := taken.cases_head
    · exact absurd aliases step.not_aliases
    · obtain rfl := step.unique step'
      exact ih ⟨Role.noConfusion, u, rest, aliases⟩ ends away
  | @aliased v _ _ _ rule _ ih =>
    obtain ⟨-, u, taken, aliases⟩ := stands
    have rests : ∀ w, ¬ Takes v w := fun w takes => by simp [takes.2.1] at rule
    obtain rfl := eq_of_takes_of_rests rests taken
    exact ih ⟨aliases.2.2.1, aliases.2.2.2⟩ ends away
  | remote remote =>
    obtain ⟨rfl, isLocal⟩ := stands
    simp [remote] at isLocal
  | inside _ _ ih => exact ih stands ends away
  | traversed _ old =>
    obtain rfl := Json.string.inj stands.1
    exact absurd .refl (away _ old)
  | @named _ _ c _ resolves _ leads =>
    obtain rfl := Json.string.inj stands.1
    obtain points | ⟨t, key, v, u, leadsTo, -⟩ := ends.points_or_onto
    · obtain rfl := Except.ok.inj (points.resolve_eq.symm.trans resolves)
      rfl
    · obtain rfl := Except.ok.inj (leadsTo.symm.trans resolves)
      exact absurd rfl (leads v)
  | @followed reference _ c _ v _ resolves _ leads _ ih =>
    obtain rfl := Json.string.inj stands.1
    obtain ⟨key, leadsTo, -⟩ := resolve_eq_definition resolves leads
    obtain points | ⟨t, step⟩ := ends.points_or_onto
    · exact absurd leadsTo points.not_leadsTo
    · have ⟨_, w, u, leadsTo', taken, aliases⟩ := step
      obtain ⟨rfl, rfl⟩ := leadsTo.unique leadsTo'
      -- A chain that ends at the root does not come back to a reference that it has passed.
      apply ih ⟨Role.noConfusion, u, taken, aliases⟩ (ends.along (.single step))
      intro s old chain
      obtain rfl | old := List.mem_cons.mp old
      · exact ends.not_cycle (.head' step chain)
      · exact away s old (.head step chain)
  | _ => exact stands.elim

/-- A field that is built from a reference to the root is typed by the common name of
roots. -/
theorem rootTyped_of_builds
    {y : Visit} {f : Field} {r : String} (tracked : Tracked y) (builds : Builds y f)
    (rule : (Body.ofJson y.1.body).propertyRule = .reference)
    (held : (Body.ofJson y.1.body).getD "$ref" = .string r)
    (ends : EndsAtRoot y.2.document y.2.container r) :
  f.type = .declared rootTypeName
  := by
  cases builds with
  | @referred v path c found target _ _ consulted names =>
    have held : (Body.ofJson v).getD "$ref" = .string r := held
    rw [held] at consulted
    have isLocal := isLocal_of_referencedName consulted names
    have away : ∀ t ∈ c.traversed, ¬ ReflTransGen (Onto c.document c.container) r t := by
      intro t mem chain
      obtain ⟨key, u, endsAt, -⟩ := tracked.away (.inl rfl) t mem
      exact (ends.along chain).not_endsAt endsAt
    obtain rfl := typeName_of_reads consulted ⟨rfl, isLocal⟩ ends away
    obtain rfl : rootTypeName = target := by simpa [referencedName] using names
    have same : normalizeName rootTypeName = rootTypeName := by decide +kernel
    simp [FieldBase.field, same]
  | _ => simp_all

/-! ### Models -/

/-- The root of a document that is no alias is declared under its own name. -/
theorem name_of_root
    {document : Json} {root : String} {c : Context} {found : Results} {d : Declaration}
    {rest : List Found} (noAlias : NoAlias document)
    (reads : Reads ⟨.definition, document, [root]⟩ c found)
    (first : found.flatten = .declaration d :: rest) :
  d.name = normalizeName root
  := by
  cases comes_of_reads reads with
  | consults taken aliases => exact absurd aliases (noAlias _ taken _)
  | rests _ rests reads =>
    cases bears_of_reads rests reads with
    | declared _ flat name =>
      obtain ⟨same, -⟩ := List.cons.inj (first.symm.trans flat)
      obtain rfl := Found.declaration.inj same
      simpa [nameOf] using name
    | deferred _ _ yields | nothing _ _ yields =>
      subst yields
      simp [Nested.flatten] at first

/-- In a model that is inferred, every field that is built from a reference to the root is
typed by the common name of roots, which is the name of the declaration of the root only if
that is called so. -/
theorem rootTyped_of_inferModels
    {document namespaceName : Json} {metaNamespace : String} {given : List String} {ms : Models}
    (inferred : (inferModels document namespaceName metaNamespace
      (given.map .string)).outcome = .ok ms) :
  (∀ m ∈ ms.models, ∀ d ∈ m.declarations, ∀ f ∈ d.fields, ∃ y, Builds y f ∧
      ReflTransGen HandsOn
        (⟨.document, document, []⟩, .start namespaceName metaNamespace given) y) ∧
    (∀ y f r, Builds y f → ReflTransGen HandsOn
        (⟨.document, document, []⟩, .start namespaceName metaNamespace given) y →
      (Body.ofJson y.1.body).propertyRule = .reference →
      (Body.ofJson y.1.body).getD "$ref" = .string r →
      EndsAtRoot (wholeOf document) (containerOf document given) r →
      f.type = .declared rootTypeName) ∧
    ∃ root fromRoot, (rootName document).outcome = .ok root ∧
      Reads ⟨.definition, document, [root]⟩
        ((Context.start namespaceName metaNamespace given).enter document) fromRoot ∧
      ∀ d rest, fromRoot.flatten = .declaration d :: rest →
        (∀ m ∈ ms.models, m.declarations.head? = some d) ∧
        (NoAlias document → d.name = normalizeName root)
  := by
  obtain ⟨results, reads, rfl⟩ := reads_of_inferModels inferred
  obtain ⟨found, yields, rfl⟩ := yields_of_reads reads
  refine ⟨?_, ?_, ?_⟩
  · obtain ⟨given', located, built⟩ := exists_builds_of_inferModels inferred
    obtain rfl : given = given' := by simpa [segments?_map_string] using located
    exact built
  · intro y f r builds reached rule held ends
    have inside : y.1.role ≠ .document := by cases builds <;> exact Role.noConfusion
    obtain ⟨tracked, sameDocument, sameContainer, -⟩ :=
      reads_of_visited inferred inside (reached.lift id fun _ _ => Asks.handsOn)
    rw [← sameDocument, ← sameContainer] at ends
    exact rootTyped_of_builds tracked builds rule held ends
  · obtain ⟨named, first, -, rfl⟩ := yields
    refine ⟨_, _, named, first, ?_⟩
    intro d rest flat
    constructor
    · intro m isModel
      obtain rfl := List.mem_singleton.mp isModel
      simp [flat, Found.declaration?, distinctDeclarations]
    · exact fun noAlias => name_of_root noAlias first flat

/-- A person with a parent, friends and a guardian, who are persons themselves. -/
def familyTree : Json :=
  .object
    [("title", .string "Person"),
      ("properties", .object
        [("parent", .object [("$ref", .string "#")]),
          ("friends", .object
            [("type", .string "array"), ("items", .object [("$ref", .string "#/")])]),
          ("guardian", .object [("$ref", .string "#/definitions/Adult")])]),
      ("definitions", .object
        [("Adult", .object [("anyOf", .array [.object [("$ref", .string "#")]])])])]

/-- What is read of a person. -/
def person : Declaration :=
  .concept "Person" false
    [{ name := "parent", type := .declared "Root", isOptional := true },
      { name := "friends", type := .declared "Root", isOptional := true, isArray := true },
      { name := "guardian", type := .declared "Root", isOptional := true }]

/-- The model of the family tree. -/
def familyTreeModel : Model := { namespaceName := .string "org.acme", declarations := [person] }

theorem inferModels_familyTree :
  (inferModels familyTree (.string "org.acme") defaultMetaNamespace []).outcome =
    .ok { models := [familyTreeModel] }
  := Report.outcome_eq_ok_of_toOption (by decide +kernel)

/-- The guardian is a person by way of an alias. -/
theorem rootTyped_of_inferModels_familyTree :
  (inferModels familyTree (.string "org.acme") defaultMetaNamespace []).outcome =
      .ok { models := [familyTreeModel] } ∧
    ∀ y f, Builds y f → ReflTransGen HandsOn
        (⟨.document, familyTree, []⟩, .start (.string "org.acme") defaultMetaNamespace []) y →
      (Body.ofJson y.1.body).propertyRule = .reference →
      (Body.ofJson y.1.body).getD "$ref" = .string "#/definitions/Adult" →
      f.type = .declared rootTypeName
  := by
  have points : PointsAtRoot "#" := pointsAtRoot_iff.mpr (by simp)
  have leads : LeadsTo (wholeOf familyTree) (containerOf familyTree []) "#/definitions/Adult"
      "Adult" (.object [("anyOf", .array [.object [("$ref", .string "#")]])]) := by
    have resolves : Reference.resolve (wholeOf familyTree) (containerOf familyTree [])
        "#/definitions/Adult" = .ok ⟨placeOf (containerOf familyTree []) ++ ["Adult"],
          .definition (.object [("anyOf", .array [.object [("$ref", .string "#")]])])⟩ := by
      decide +kernel
    exact resolves
  have takes : Takes (.object [("anyOf", .array [.object [("$ref", .string "#")]])])
      (.object [("$ref", .string "#")]) := by
    refine ⟨?_, by decide +kernel, rfl⟩
    simp [Lists, Json.get?, Json.lookup?]
  have aliases : Aliases (.object [("$ref", .string "#")]) "#" := by
    refine ⟨?_, by decide +kernel, rfl, by decide +kernel⟩
    simp [Lists, Json.get?, Json.lookup?]
  have onto : Onto (wholeOf familyTree) (containerOf familyTree []) "#/definitions/Adult" "#" :=
    ⟨_, _, _, leads, .single takes, aliases⟩
  use inferModels_familyTree
  intro y f builds reached rule held
  exact (@rootTyped_of_inferModels _ _ _ [] _ inferModels_familyTree).2.1 y f _ builds reached rule
    held ⟨"#", .single onto, points⟩

/-- The parent of a person refers to the root, which is declared as `Person`, but has another
type. -/
theorem ne_name_of_root_familyTree :
  (inferModels familyTree (.string "org.acme") defaultMetaNamespace []).outcome =
      .ok { models := [familyTreeModel] } ∧
    familyTreeModel.declarations.head? = some person ∧
    ∃ y, ∃ f ∈ person.fields, Builds y f ∧ ReflTransGen HandsOn
        (⟨.document, familyTree, []⟩, .start (.string "org.acme") defaultMetaNamespace []) y ∧
      (Body.ofJson y.1.body).propertyRule = .reference ∧
      (Body.ofJson y.1.body).getD "$ref" = .string "#" ∧ PointsAtRoot "#" ∧
      f.type ≠ .declared person.name
  := by
  let c := (Context.start (.string "org.acme") defaultMetaNamespace []).enter familyTree
  have points : PointsAtRoot "#" := pointsAtRoot_iff.mpr (by simp)
  have named : (rootName familyTree).outcome = .ok "Person" := by decide +kernel
  have noList : ∀ elements, familyTree.get? "enum" ≠ some (.array elements) := by
    simp [familyTree, Json.get?, Json.lookup?]
  have rule : (Body.ofJson familyTree).structuralRule = .concept := by decide +kernel
  have fits : MayBeConcept (Body.ofJson familyTree) ["Person"] := ⟨false, rfl, rfl⟩
  have isSet : (Body.ofJson familyTree).getD "properties" ≠ .null := by decide +kernel
  have reached : ReflTransGen HandsOn (⟨.document, familyTree, []⟩,
      .start (.string "org.acme") defaultMetaNamespace [])
        (⟨.property, .object [("$ref", .string "#")], ["Person", "properties", "parent"]⟩, c) :=
    .head (.root named) (.head (.structured noList) (.head (.concept rule fits isSet)
      (.single (.member (.head _)))))
  have consulted : Reads ⟨.reference, .string "#", ["Person", "properties", "parent"]⟩ c.bare
      (.one (.typeName "Root")) :=
    .inside (by decide +kernel) (.named points.resolve_eq (by simp [c, Context.bare,
      Context.enter, Context.start]) (by simp))
  have builds : Builds
      (⟨.property, .object [("$ref", .string "#")], ["Person", "properties", "parent"]⟩, c)
      ((fieldBase "parent" c).field (.declared (normalizeName "Root"))) :=
    .referred (by decide) (by decide +kernel) consulted rfl
  have parent : (fieldBase "parent" c).field (.declared (normalizeName "Root")) =
      { name := "parent", type := .declared "Root", isOptional := true } := by
    decide +kernel
  rw [parent] at builds
  exact ⟨inferModels_familyTree, rfl, _, _, .head _, builds, reached, by decide +kernel, rfl,
    points, by decide⟩

end ConceptModel.Inference

import ConceptModel.Proofs.Inference.Distinct
import ConceptModel.Proofs.Inference.Ends
import ConceptModel.Proofs.Inference.Entry
import ConceptModel.Proofs.Text.Normalization

/-!
# Referential integrity

Whether the types of the fields in a model are declared in it.  A field that is built from
a reference is typed by the key of the definition at which the chain of the reference ends,
and this definition is read once more by itself.  But a reference that is being followed
already yields the name of a place and no declaration, so a visit has to be `Clean`: either
no definition leads back to itself, or no definition is an alias, so that what is read for
a name only is all that is read while a reference is being followed.
-/

namespace ConceptModel.Inference

open Json Relation Text

/-! ### Fields that bring forth their type -/

/-- The type of a field that is built from no reference is declared by the same reading. -/
theorem spawned_of_builds
    {x y : Visit} {found : Results} (inside : x.1.role ≠ .document) (reads : Reads x.1 x.2 found)
    (reached : ReflTransGen HandsOn x y) {f : Field} (builds : Builds y f)
    (other : (Body.ofJson y.1.body).propertyRule ≠ .reference) {type : String}
    (isDeclared : f.type = .declared type) :
  ∃ d : Declaration, .declaration d ∈ found.flatten ∧ d.name = type
  := by
  obtain ⟨handed, reads, among⟩ := reads_of_reached inside reads reached
  cases builds with
  | @listed v path c elements name rule =>
    obtain rfl := by simpa [FieldBase.field] using isDeclared
    use .enumeration (normalizeName (pathName path)) (enumerationValues elements)
    constructor
    · apply among.spawned
      · trivial
      · rw [reads.unique (.choice name rule)]
        simp
    · rfl
  | referred _ rule => exact absurd rule other
  | freeform => simp [FieldBase.field] at isDeclared
  | @inline v path c name rule =>
    obtain rfl := by simpa [FieldBase.field] using isDeclared
    obtain ⟨-, -, isObject⟩ := Body.inline_of_propertyRule rule
    obtain ⟨members, held⟩ := Json.exists_of_isObject isObject
    obtain ⟨each, -, flat⟩ := each_of_inline name rule held reads
    use .concept (normalizeName (pathName path)) false
      ((members.flatMap fun e => (each e).flatten).filterMap Found.field?)
    constructor
    · apply among.spawned
      · trivial
      · simp [flat, flatten_conceptResults]
    · rfl
  | primitive _ _ built => exact absurd isDeclared (primitiveField_ne_declared built)

/-! ### Clean visits -/

/-- Whether no definition leads back to itself. -/
def Acyclic (document : Json) (container : List String) : Prop :=
  ∀ key, ¬ TransGen (Refers document container) key key

/-- Whether a schema is no local reference once first alternatives have been taken. -/
def NoAlias (v : Json) : Prop := ∀ u, ReflTransGen Takes v u → ∀ r, ¬ Aliases u r

/-- Whether no definition of a document is an alias. -/
def Unaliased (document : Json) (container : List String) : Prop :=
  ∀ fields, document.getPath? (placeOf container) = some (.object fields) →
    ∀ e ∈ fields, NoAlias e.2

/-- Whether what is read of a fragment is no alias. -/
def Fragment.Settled (f : Fragment) : Prop :=
  match f.role with
  | .definitions => ∀ fields, f.body = .object fields → ∀ e ∈ fields, NoAlias e.2
  | .definition => NoAlias f.body
  | .structural => ¬ Lists f.body ∧ NoAlias f.body
  | .reference => Reference.isLocal f.body = false
  | .localReference => False
  | _ => True

/-- A visit from which no reference leads back to those that are being followed: there is
no cycle, or nothing is being followed, nor will be but for a name. -/
inductive Clean (document : Json) (container : List String) (x : Visit) : Prop where
  | acyclic (noCycle : Acyclic document container)
      (fresh : ∀ t ∈ x.2.traversed, ∀ r ∈ x.1.references, ∀ key v other w,
        LeadsTo document container t key v → LeadsTo document container r other w →
        TransGen (Refers document container) key other)
  | unaliased (unaliased : Unaliased document container) (traversed : x.2.traversed = [])
      (settled : x.1.Settled)

section

variable {document : Json} {container : List String} {x y : Visit}

theorem noAlias_of_structuralRule
    {v : Json} (alternation : (Body.ofJson v).structuralRule ≠ .alternation)
    (reference : (Body.ofJson v).structuralRule ≠ .reference) :
  NoAlias v
  := by
  have rests := rests_of_structuralRule alternation reference
  exact fun u taken r => not_aliases_of_rests rests taken

theorem Unaliased.definition
    (h : Unaliased document container) {key : String} {v : Json}
    (held : definition? document container key = some v) :
  NoAlias v
  := by
  obtain ⟨w, place, held⟩ := Option.bind_eq_some_iff.mp held
  cases w with
  | object fields => exact h fields place _ (mem_of_lookup?_eq_some held)
  | _ => simp [get?] at held

theorem Unaliased.not_onto
    (h : Unaliased document container) {r s : String} :
  ¬ Onto document container r s
  := by
  rintro ⟨key, v, u, leads, taken, aliases⟩
  exact h.definition leads.definition? u taken s aliases

/-- Without cycles, what is being followed is not met again. -/
theorem fresh_of_proceeds
    (fresh : ∀ t ∈ x.2.traversed, ∀ r ∈ x.1.references, ∀ key v other w,
      LeadsTo document container t key v → LeadsTo document container r other w →
      TransGen (Refers document container) key other)
    (sameDocument : x.2.document = document) (sameContainer : x.2.container = container)
    (h : Proceeds x y) :
  ∀ t ∈ y.2.traversed, ∀ r ∈ y.1.references, ∀ key v other w,
    LeadsTo document container t key v → LeadsTo document container r other w →
    TransGen (Refers document container) key other
  := by
  subst sameDocument sameContainer
  intro t ht r hr key v other w leadsT leadsR
  cases h with
  | descends references weight traversed =>
    rw [traversed] at ht
    exact fresh t ht r (references hr) key v other w leadsT leadsR
  | @follows s middle u mem _ leads next traversed =>
    rw [next] at hr
    have step : Refers x.2.document x.2.container middle other :=
      ⟨u, r, w, leads.definition?, hr, leadsR⟩
    rw [traversed] at ht
    obtain rfl | old := List.mem_cons.mp ht
    · obtain ⟨rfl, -⟩ := leads.unique leadsT
      exact .single step
    · exact (fresh t old s mem key v middle u leadsT leads).tail step
  | @defers s middle u mem ends rule next traversed =>
    obtain ⟨last, whole, chain, leads, taken, -⟩ := ends
    rw [next] at hr
    have within := references_subset_of_takes taken (Body.references_ofJson_subset hr)
    have step : Refers x.2.document x.2.container middle other :=
      ⟨whole, r, w, leads.definition?, within, leadsR⟩
    rw [traversed] at ht
    obtain ⟨first, body, leads'⟩ := exists_leadsTo_of_chain chain leads
    have before := fresh t ht s mem key v first body leadsT leads'
    exact (before.trans_left (refers_of_onto chain leads' leads)).tail step

/-- What a clean visit hands on to is clean. -/
theorem Clean.handsOn
    (clean : Clean document container x) (inside : Inside document container x)
    (h : HandsOn x y) :
  Clean document container y
  := by
  cases clean with
  | acyclic noCycle fresh =>
    apply Clean.acyclic noCycle
    exact fresh_of_proceeds fresh inside.document_eq inside.container_eq
      (proceeds_of_asks inside.role inside.fits (.handsOn h))
  | unaliased unaliased traversed settled =>
    cases h with
    | root | container => exact absurd rfl inside.role
    | named held => exact .unaliased unaliased traversed (settled _ rfl _ held)
    | enumerated => exact .unaliased unaliased traversed trivial
    | structured noList =>
      exact .unaliased unaliased traversed ⟨not_exists.mpr noList, settled⟩
    | firstAlternative rule =>
      apply Clean.unaliased unaliased
      · exact traversed
      · intro u taken
        exact settled.2 u (.head ⟨settled.1, rule, rfl⟩ taken)
    | @aliased v path c rule =>
      apply Clean.unaliased unaliased
      · exact traversed
      · obtain ⟨r, held⟩ := Body.isReference_iff.mp (Body.isReference_of_structuralRule rule)
        by_cases isLocal : Reference.isLocal (.string r)
        · exact absurd ⟨settled.1, rule, held, isLocal⟩ (settled.2 v .refl r)
        · simpa [Fragment.Settled, held] using isLocal
    | concept | member | alternation | deferral | array | union | tupleAsConcept | tupleAsText
    | items | tuple => exact .unaliased unaliased traversed trivial
    | inline name rule =>
      apply Clean.unaliased unaliased
      · exact traversed
      · obtain ⟨-, rule, -⟩ := Body.inline_of_propertyRule rule
        apply noAlias_of_structuralRule <;> simp [rule]
    | inside rule => simp [Fragment.Settled, rule] at settled
    | followed => exact settled.elim

/-! ### References of clean visits -/

/-- The chain of a reference in a clean visit ends at a definition that is read. -/
theorem Clean.endsAt
    (clean : Clean document container x) (inside : Inside document container x)
    (resolves : ∀ r ∈ document.references, ∃ key v, LeadsTo document container r key v)
    {r : String} (mem : r ∈ x.1.references) {found : Results}
    (h : Consulted x.2.bare r found) :
  ∃ key u past, EndsAt document container r key u ∧ Rests u ∧
    Reads ⟨.definition, u, placeOf container ++ [key]⟩
      { x.2.bare with traversed := past } found
  := by
  obtain rfl := inside.document_eq
  obtain rfl := inside.container_eq
  cases h with
  | ended chain passed fresh leads taken rests reads =>
    exact ⟨_, _, _, ⟨_, _, chain, leads, taken, rests⟩, rests, reads⟩
  | @stopped last name past chain passed stops =>
    exfalso
    obtain ⟨key, v, leads⟩ := resolves last (mem_references_of_chain chain (inside.references mem))
    obtain met | nowhere := stops
    · obtain ⟨first, w, leads'⟩ := exists_leadsTo_of_chain chain leads
      cases clean with
      | acyclic noCycle fresh =>
        obtain old | ⟨-, again⟩ := passed last met
        · have ahead := fresh last old r mem key v first w leads leads'
          exact noCycle key (ahead.trans_left (refers_of_onto chain leads' leads))
        · exact noCycle key (refers_of_cycle again leads)
      | unaliased unaliased traversed =>
        obtain old | ⟨-, again⟩ := passed last met
        · simp [Context.bare, traversed] at old
        · obtain ⟨s, step, -⟩ := TransGen.head'_iff.mp again
          exact unaliased.not_onto step
    · exact nowhere key v leads

/-- A field that a clean visit builds from a reference is typed by the key of the definition
at which the chain of the reference ends, and which declares this name. -/
theorem Clean.referred
    (clean : Clean document container x) (inside : Inside document container x)
    (resolves : ∀ r ∈ document.references, ∃ key v, LeadsTo document container r key v)
    {f : Field} (builds : Builds x f)
    (rule : (Body.ofJson x.1.body).propertyRule = .reference) :
  ∃ r key u, (Body.ofJson x.1.body).getD "$ref" = .string r ∧
    EndsAt document container r key u ∧ Rests u ∧ Declares u ∧
    f.type = .declared (normalizeName key)
  := by
  cases builds with
  | @referred v path c found target name _ consulted names =>
    obtain ⟨r, held⟩ := Body.isReference_iff.mp (Body.isReference_of_propertyRule rule)
    have held : (Body.ofJson v).getD "$ref" = .string r := held
    rw [held] at consulted
    have isLocal := isLocal_of_referencedName consulted names
    have mem := Body.references_ofJson_subset (Body.mem_references_of_getD held isLocal)
    obtain ⟨key, u, past, ends, rests, reads⟩ :=
      clean.endsAt inside resolves mem (consulted_of_reads isLocal consulted)
    cases bears_of_reads rests reads with
    | @declared d rest declares _ name named =>
      obtain rfl : d.name = target := by simpa [named] using names
      have key_eq : nameOf (placeOf container ++ [key]) = key := by simp [nameOf]
      rw [key_eq] at name
      use r, key, u, held, ends, rests, declares
      simp only [FieldBase.field, name, normalizeName_normalizeName]
    | deferred _ _ yields | nothing _ _ yields =>
      subst yields
      simp [referencedName] at names
  | _ => simp_all

theorem Clean.reached
    (clean : Clean document container x) (inside : Inside document container x)
    (h : ReflTransGen HandsOn x y) :
  Clean document container y ∧ Inside document container y
  := by
  induction h with
  | refl => exact ⟨clean, inside⟩
  | tail _ step ih => exact ⟨ih.1.handsOn ih.2 step, ih.2.asks (.handsOn step)⟩

end

/-! ### Documents -/

section

variable {document : Json} {c : Context} {found : List Declaration}

/-- A visit of a part of a document: of its root or of its definitions. -/
theorem clean_of_part
    (harmless : Acyclic (wholeOf document) (containerOf document c.container) ∨
      NoAlias document ∧ Unaliased (wholeOf document) (containerOf document c.container))
    (fresh : c.traversed = []) {path : List String} {x : Visit}
    (h : HandsOn (⟨.document, document, path⟩, c) x) :
  Clean (wholeOf document) (containerOf document c.container) x ∧
    Inside (wholeOf document) (containerOf document c.container) x
  := by
  cases h with
  | root named =>
    constructor
    · obtain acyclic | ⟨noAlias, unaliased⟩ := harmless
      · exact .acyclic acyclic (by simp [Context.enter, fresh])
      · exact .unaliased unaliased fresh noAlias
    · exact inside_root named
  | container held =>
    constructor
    · obtain acyclic | ⟨-, unaliased⟩ := harmless
      · exact .acyclic acyclic (by simp [Context.enter, fresh])
      · apply Clean.unaliased unaliased fresh
        intro fields same
        obtain rfl := Json.object.inj same
        obtain ⟨place, known⟩ := definitions?_eq_some held
        apply unaliased
        rw [placeOf, if_neg (show containerOf document c.container ≠ [] from known)]
        exact place
    · exact inside_definitions held

/-- The definition at which the chain of a reference ends is among those of the document. -/
theorem Yields.declared
    (h : Yields document c found) {r key : String} {u : Json}
    (ends : EndsAt (wholeOf document) (containerOf document c.container) r key u)
    (rests : Rests u) (declares : Declares u) :
  ∃ d ∈ found, d.name = normalizeName key
  := by
  obtain ⟨v, held, taken⟩ := ends.definition?
  obtain ⟨fields, located, held, same⟩ :=
    definitions?_of_definition? (c := c.enter document) rfl rfl held
  have step : HandsOn (⟨.document, document, []⟩, c) _ := .container located
  obtain ⟨results, reads, into⟩ := h.parts step
  have entry := mem_of_lookup?_eq_some held
  obtain ⟨own, reads, among⟩ := reads_of_named reads entry
  have comes := comes_of_reads reads
  cases comes with
  | consults taken' aliases =>
    obtain rfl := takes_unique taken taken' rests.1 aliases.not_takes
    exact absurd aliases (rests.2 _)
  | rests taken' rests' reads =>
    obtain rfl := takes_unique taken taken' rests.1 rests'.1
    cases bears_of_reads rests reads with
    | @declared d rest _ flat name =>
      use d
      constructor
      · apply into d (among _ _)
        simp [flat]
      · simpa [nameOf] using name
    | deferred silent | nothing silent => exact absurd declares silent

end

/-- In a model that is inferred, every type of a field is declared, and every field that is
built from a reference is typed by the key of the definition at which its chain ends. -/
theorem integrity_of_inferModels
    {document namespaceName : Json} {metaNamespace : String} {given : List String} {ms : Models}
    (inferred : (inferModels document namespaceName metaNamespace
      (given.map .string)).outcome = .ok ms)
    (resolves : ∀ r ∈ document.references,
      ∃ key v, LeadsTo (wholeOf document) (containerOf document given) r key v)
    (harmless : Acyclic (wholeOf document) (containerOf document given) ∨
      NoAlias document ∧ Unaliased (wholeOf document) (containerOf document given)) :
  (∀ m ∈ ms.models, ∀ d ∈ m.declarations, ∀ f ∈ d.fields, ∀ type, f.type = .declared type →
      ∃ e ∈ m.declarations, e.name = type) ∧
    (∀ m ∈ ms.models, ∀ d ∈ m.declarations, ∀ f ∈ d.fields, ∃ y, Builds y f ∧
      ReflTransGen HandsOn
        (⟨.document, document, []⟩, .start namespaceName metaNamespace given) y) ∧
    ∀ y f, Builds y f → ReflTransGen HandsOn
        (⟨.document, document, []⟩, .start namespaceName metaNamespace given) y →
      (Body.ofJson y.1.body).propertyRule = .reference →
      ∃ r key u, (Body.ofJson y.1.body).getD "$ref" = .string r ∧
        EndsAt (wholeOf document) (containerOf document given) r key u ∧
        f.type = .declared (normalizeName key)
  := by
  obtain ⟨results, reads, rfl⟩ := reads_of_inferModels inferred
  obtain ⟨found, yields, rfl⟩ := yields_of_reads reads
  have resolves : ∀ r ∈ (wholeOf document).references,
      ∃ key v, LeadsTo (wholeOf document) (containerOf document given) r key v :=
    fun r mem => resolves r (Body.references_ofJson_subset mem)
  have part {x : Visit} (step : HandsOn (⟨.document, document, []⟩,
      .start namespaceName metaNamespace given) x) := clean_of_part harmless rfl step
  have model : ∀ m ∈ (modelsOf (.one (.models (((Context.start namespaceName metaNamespace
      given).enter document).modelsWith (distinctDeclarations found))))).models,
      m.declarations = distinctDeclarations found := by
    simp [modelsOf, Context.modelsWith]
  have referred {x y : Visit} {f : Field} (step : HandsOn
      (⟨.document, document, []⟩, .start namespaceName metaNamespace given) x)
      (reached : ReflTransGen HandsOn x y) (builds : Builds y f)
      (rule : (Body.ofJson y.1.body).propertyRule = .reference) :=
    have ⟨clean, inside⟩ := (part step).1.reached (part step).2 reached
    clean.referred inside resolves builds rule
  constructor
  · intro m isModel d mem f held type isDeclared
    rw [model m isModel] at mem ⊢
    obtain ⟨x, results, y, step, reads, reached, builds⟩ :=
      yields.built (mem_of_mem_distinctDeclarations mem) held
    by_cases rule : (Body.ofJson y.1.body).propertyRule = .reference
    · obtain ⟨r, key, u, -, ends, rests, declares, typed⟩ := referred step reached builds rule
      obtain ⟨e, mem, named⟩ := yields.declared ends rests declares
      obtain rfl : type = normalizeName key := by simpa [isDeclared] using typed
      exact named ▸ exists_mem_distinctDeclarations mem
    · obtain ⟨e, mem, rfl⟩ :=
        spawned_of_builds (part step).2.role reads reached builds rule isDeclared
      obtain ⟨results', reads', into⟩ := yields.parts step
      obtain rfl := reads.unique reads'
      exact exists_mem_distinctDeclarations (into e mem)
  constructor
  · intro m isModel d mem f held
    rw [model m isModel] at mem
    obtain ⟨x, results, y, step, reads, reached, builds⟩ :=
      yields.built (mem_of_mem_distinctDeclarations mem) held
    exact ⟨y, builds, .head step reached⟩
  · intro y f builds reached rule
    obtain rfl | ⟨x, step, reached⟩ := reached.cases_head
    · cases builds
    · obtain ⟨r, key, u, held, ends, -, -, typed⟩ := referred step reached builds rule
      exact ⟨r, key, u, held, ends, typed⟩

/-- A node that refers to the next one. -/
def listNode : Json :=
  .object
    [("type", .string "object"),
      ("properties", .object [("next", .object [("$ref", .string "#/definitions/Node")])])]

/-- A list of nodes. -/
def linkedList : Json :=
  .object
    [("properties", .object [("first", .object [("$ref", .string "#/definitions/Node")])]),
      ("definitions", .object [("Node", listNode)])]

/-- The types of the list are declared, although the nodes lead back to themselves. -/
theorem integrity_of_inferModels_linkedList :
  ∃ ms, (inferModels linkedList (.string "org.acme") defaultMetaNamespace []).outcome = .ok ms ∧
    ∀ m ∈ ms.models, ∀ d ∈ m.declarations, ∀ f ∈ d.fields, ∀ type, f.type = .declared type →
      ∃ e ∈ m.declarations, e.name = type
  := by
  obtain ⟨ms, inferred⟩ : ∃ ms, (inferModels linkedList (.string "org.acme") defaultMetaNamespace
      []).outcome = .ok ms := Report.exists_outcome_eq_ok (by decide +kernel)
  have references : linkedList.references = ["#/definitions/Node", "#/definitions/Node"] := by
    decide +kernel
  have leads : Reference.resolve (wholeOf linkedList) (containerOf linkedList [])
      "#/definitions/Node" = .ok ⟨placeOf (containerOf linkedList []) ++ ["Node"],
        .definition listNode⟩ := by
    decide +kernel
  have noAlias : NoAlias linkedList := by
    apply noAlias_of_structuralRule <;> decide +kernel
  have unaliased : Unaliased (wholeOf linkedList) (containerOf linkedList []) := by
    intro fields held e mem
    have container : (wholeOf linkedList).getPath? (placeOf (containerOf linkedList [])) =
        some (.object [("Node", listNode)]) := by
      decide +kernel
    have only : fields = [("Node", listNode)] := by simpa using held.symm.trans container
    obtain rfl : e = ("Node", listNode) := by simpa [only] using mem
    apply noAlias_of_structuralRule <;> decide +kernel
  use ms, inferred
  apply (@integrity_of_inferModels _ _ _ [] ms inferred _ (.inr ⟨noAlias, unaliased⟩)).1
  intro r mem
  obtain rfl : r = "#/definitions/Node" := by simpa [references] using mem
  exact ⟨"Node", listNode, leads⟩

end ConceptModel.Inference

import ConceptModel.Proofs.Dialect.Reordered
import ConceptModel.Proofs.Inference.Near

/-!
# The order of definitions

When definitions stand in another order, each of them brings forth the declarations that it
did before.  What differs is the order of all that has been found, and so which of several
declarations of one name stays.  So the declarations of a document are the same in any order
of its definitions exactly when these `Agree`.
-/

namespace ConceptModel.Inference

open Json

/-! ### The document -/

section

variable {fields fields' : List (String × Json)} {key : String} {place : List String}
  (reordered : Reordered (key :: place) (.object fields) (.object fields'))
include reordered

/-- References lead to the same in any order of the definitions. -/
theorem resolve_of_reordered
    (reference : String) :
  Reference.resolve (.object fields') (key :: place) reference =
    Reference.resolve (.object fields) (key :: place) reference
  := by
  obtain ⟨inner, inner', held, held', perm, distinct⟩ := reordered.getPath?
  have known : key :: place ≠ [] := by simp
  have target (pointer : List String) :
      Reference.target (.object fields') (key :: place) pointer =
        Reference.target (.object fields) (key :: place) pointer := by
    simp only [Reference.target, if_neg known, held, held', Option.bind_some, get?,
      lookup?_perm perm distinct]
  simp only [Reference.resolve, target]

/-- A document is checked as before in any order of its definitions. -/
theorem checkDocument_of_reordered
    (h : (checkDocument (.object fields)).outcome = .ok ()) :
  (checkDocument (.object fields')).outcome = .ok ()
  := by
  obtain ⟨d, isDialect, clear⟩ := checkDocument_outcome_eq_ok.mp h
  apply checkDocument_outcome_eq_ok.mpr
  use d
  constructor
  · have kin := reordered.lookup? "$schema"
    unfold Dialect.ofDocument at isDialect ⊢
    simp only at isDialect ⊢
    generalize lookup? "$schema" fields = x at kin isDialect
    generalize lookup? "$schema" fields' = y at kin
    cases kin with
    | none => exact isDialect
    | some kin =>
      obtain rfl | ⟨_, inner⟩ := kin
      · exact isDialect
      · obtain ⟨_, _, rfl, rfl⟩ := inner.objects
        simp at isDialect
  · exact (Dialect.findings_eq_nil_of_reordered reordered d).mp clear

/-- A reordered document has its definitions in the same place. -/
theorem containerOf_of_reordered
    (given : List String) :
  containerOf (.object fields') given = containerOf (.object fields) given
  := by
  have kin : Kin (.object fields) (.object fields') := .inr ⟨_, reordered⟩
  have isObject (path : List String) :
      (getPath? path (.object fields')).map isObject =
        (getPath? path (.object fields)).map isObject := by
    have held := kin.getPath? path
    generalize getPath? path (.object fields) = x at held
    generalize getPath? path (.object fields') = y at held
    cases held with
    | none => rfl
    | some kin => simp [kin.isObject_eq]
  simp only [containerOf, wholeOf, Body.ofJson_object, Reference.locateDefinitions, isObject]

end

section

variable {document namespaceName : Json} {metaNamespace : String} {given : List String}
  {fields : List (String × Json)} {depth : Nat}

/-- What has been read of a document is what is read of it with its definitions in another
order. -/
theorem Parts.reordered
    {document' : Json} {root : String} {fromRoot : Results} {each : String × Json → Results}
    {c : Context} (parts : Parts document (c.enter document) fields depth root fromRoot each)
    (held : (c.enter document).definitions? = some fields)
    (outside : (containerOf document c.container).head? ≠ some "properties")
    (reordered : Reordered (containerOf document c.container) document document') :
  ∃ fields' fromRoot', fields.Perm fields' ∧
    document'.getPath? (containerOf document c.container) = some (.object fields') ∧
    (c.enter document').definitions? = some fields' ∧
    Parts document' (c.enter document') fields' depth root fromRoot' each ∧
    declarationsIn fromRoot' = declarationsIn fromRoot
  := by
  obtain ⟨place, known⟩ := definitions?_eq_some held
  obtain ⟨outer, outer', rfl, rfl⟩ := reordered.objects
  obtain ⟨key, path, container⟩ : ∃ key path, containerOf (.object outer) c.container =
      key :: path := List.exists_cons_of_ne_nil known
  obtain ⟨inner, fields', here, there, perm, -⟩ := reordered.getPath?
  obtain rfl : inner = fields := by simpa using here.symm.trans place
  have toKey : Reordered (key :: path) (.object outer) (.object outer') := container ▸ reordered
  have sameContainer : containerOf (.object outer') c.container =
      containerOf (.object outer) c.container := containerOf_of_reordered toKey c.container
  have enters : c.enter (.object outer') =
      (c.enter (.object outer)).mapDocument fun _ => .object outer' := by
    simp only [Context.enter, Context.mapDocument, sameContainer]
    rfl
  have leads (r : String) (_ : r ∈ (Json.object outer).references) :
      Reference.resolve (.object outer') (containerOf (.object outer) c.container) r =
        Reference.resolve (.object outer) (containerOf (.object outer) c.container) r := by
    rw [container]
    exact resolve_of_reordered toKey r
  have likewise := likewise_root toKey.altered (by simpa [container] using outside)
    (inside_root parts.named) leads (depth + 1)
  obtain ⟨fromRoot', first, same⟩ := likewise.exists_outcome parts.first
  have located : (c.enter (.object outer')).definitions? = some fields' := by
    have known : (c.enter (.object outer')).container ≠ [] := by rwa [enters]
    rw [Context.definitions?, if_neg known, enters]
    have there : getPath? (c.enter (.object outer)).container (.object outer') =
        some (.object fields') := there
    simp only [Context.mapDocument, there]
  have named : (rootName (.object outer')).outcome = .ok root :=
    rootName_of_near (near_of_altered toKey.altered)
      (checkDocument_of_reordered toKey (checkDocument_of_rootName parts.named)) parts.named
  use fields', fromRoot', perm, there, located
  rw [enters]
  have second : ∀ e ∈ fields',
      (readWithin depth ⟨.definition, e.2, (c.enter (.object outer)).container ++ [e.1]⟩
        ((c.enter (.object outer)).mapDocument fun _ => .object outer')).outcome =
          .ok (each e) := by
    intro e mem
    have mem := perm.mem_iff.mpr mem
    have inside := (inside_definitions held).asks (.handsOn (.named mem))
    rw [← readWithin_mapDocument leads inside]
    exact parts.second e mem
  exact ⟨⟨named, first, second⟩, same⟩

end

/-! ### Declarations in any order -/

/-- Whether a declaration is the first one of its name that a visit brings forth. -/
def Brings (x : Visit) (d : Declaration) : Prop :=
  ∃ found, Reads x.1 x.2 found ∧ firstNamed d.name (declarationsIn found) = some d

/-- Whether no two definitions bring forth different declarations of a name that the root does
not declare. -/
def Agree (document : Json) (c : Context) (fields : List (String × Json)) : Prop :=
  ∀ e ∈ fields, ∀ e' ∈ fields, ∀ d d',
    Brings (⟨.definition, e.2, c.container ++ [e.1]⟩, c) d →
    Brings (⟨.definition, e'.2, c.container ++ [e'.1]⟩, c) d' → d.name = d'.name →
    (∃ root r, (rootName document).outcome = .ok root ∧
      Brings (⟨.definition, document, [root]⟩, c) r ∧ r.name = d.name) ∨ d = d'

/-- A visit brings the first declarations of their names. -/
theorem brings_iff
    {depth : Nat} {x : Visit} {found : Results} {d : Declaration}
    (h : (readWithin depth x.1 x.2).outcome = .ok found) :
  Brings x d ↔ firstNamed d.name (declarationsIn found) = some d
  := by
  have reads : Reads x.1 x.2 found := reads_of_readWithin h
  constructor
  · rintro ⟨found', reads', first⟩
    obtain rfl := reads.unique reads'
    exact first
  · exact fun first => ⟨found, reads, first⟩

theorem exists_firstNamed_iff
    {name : String} {found : List Declaration} :
  (∃ r, firstNamed r.name found = some r ∧ r.name = name) ↔ ∃ r ∈ found, r.name = name
  := by
  constructor
  · rintro ⟨r, first, named⟩
    exact ⟨r, List.mem_of_find?_eq_some first, named⟩
  · rintro ⟨r, mem, rfl⟩
    obtain ⟨e, stays, named⟩ := exists_mem_distinctDeclarations mem
    exact ⟨e, firstNamed_eq_some.mpr ⟨stays, rfl⟩, named⟩

theorem Parts.agree_iff
    {document : Json} {c : Context} {fields : List (String × Json)} {depth : Nat} {root : String}
    {fromRoot : Results} {each : String × Json → Results}
    (parts : Parts document c fields depth root fromRoot each) :
  Agree document c fields ↔ ∀ a ∈ fields, ∀ b ∈ fields, ∀ d e,
    firstNamed d.name (declarationsIn (each a)) = some d →
    firstNamed e.name (declarationsIn (each b)) = some e → d.name = e.name →
    (∃ r ∈ declarationsIn fromRoot, r.name = d.name) ∨ d = e
  := by
  have rooted (name : String) : (∃ root r, (rootName document).outcome = .ok root ∧
      Brings (⟨.definition, document, [root]⟩, c) r ∧ r.name = name) ↔
        ∃ r ∈ declarationsIn fromRoot, r.name = name := by
    rw [← exists_firstNamed_iff]
    constructor
    · rintro ⟨other, r, named, brings, same⟩
      obtain rfl : root = other := by simpa using parts.named.symm.trans named
      exact ⟨r, (brings_iff parts.first).mp brings, same⟩
    · rintro ⟨r, first, same⟩
      exact ⟨root, r, parts.named, (brings_iff parts.first).mpr first, same⟩
  unfold Agree
  simp only [rooted]
  constructor
  · intro agree a ha b hb d e hd he
    exact agree a ha b hb d e ((brings_iff (parts.second a ha)).mpr hd)
      ((brings_iff (parts.second b hb)).mpr he)
  · intro agree a ha b hb d e hd he
    exact agree a ha b hb d e ((brings_iff (parts.second a ha)).mp hd)
      ((brings_iff (parts.second b hb)).mp he)

section

variable {document namespaceName : Json} {metaNamespace : String} {given : List String}
  {fields : List (String × Json)}

/-- A document that is no object has no definitions. -/
theorem place_of_definitions?
    {c : Context} (held : (c.enter document).definitions? = some fields) :
  document.getPath? (containerOf document c.container) = some (.object fields) ∨ fields = []
  := by
  obtain ⟨place, known⟩ := definitions?_eq_some held
  obtain ⟨key, path, container⟩ := List.exists_cons_of_ne_nil
    (show containerOf document c.container ≠ [] from known)
  have place : (wholeOf document).getPath? (containerOf document c.container) =
      some (.object fields) := place
  have empty : getPath? path (.object []) = some (.object fields) → fields = [] := by
    cases path with
    | nil => simp [getPath?, eq_comm]
    | cons => simp [getPath?, get?, lookup?]
  have nothing : getPath? (key :: path) (.object [("not", .object [])]) =
      some (.object fields) → fields = [] := by
    by_cases same : "not" = key
    · simpa [getPath?, get?, lookup?, same] using empty
    · simp [getPath?, get?, lookup?, same]
  cases document with
  | object outer => exact .inl place
  | bool value =>
    rw [container] at place
    cases value with
    | true => simp [wholeOf, Body.ofJson, getPath?, get?, lookup?] at place
    | false => exact .inr (nothing place)
  | _ =>
    rw [container] at place
    exact .inr (nothing place)

/-- The definitions of a document may stand in any order, and yield the same declarations,
exactly when no two of them bring forth different declarations of a name that the root does
not declare. -/
theorem sameDeclarations_iff_agree
    {ms : Models}
    (inferred : (inferModels document namespaceName metaNamespace
      (given.map .string)).outcome = .ok ms)
    (located : ((Context.start namespaceName metaNamespace given).enter document).definitions? =
      some fields)
    (distinct : (fields.map Prod.fst).Nodup)
    (outside : (containerOf document given).head? ≠ some "properties") :
  (∀ document', Reordered (containerOf document given) document document' →
      ∃ ms', (inferModels document' namespaceName metaNamespace
        (given.map .string)).outcome = .ok ms' ∧
        ∀ d, d ∈ declarationsOf ms' ↔ d ∈ declarationsOf ms) ↔
    Agree document ((Context.start namespaceName metaNamespace given).enter document) fields
  := by
  obtain ⟨depth, root, fromRoot, each, parts, rfl⟩ := exists_parts_of_inferModels located inferred
  have yields {document' : Json} {fields' : List (String × Json)}
      (reordered : Reordered (containerOf document given) document document')
      (place : document'.getPath? (containerOf document given) = some (.object fields')) :
      ∃ ms', (inferModels document' namespaceName metaNamespace
          (given.map .string)).outcome = .ok ms' ∧
        declarationsOf ms' = distinctDeclarations
          (declarationsIn fromRoot ++ fields'.flatMap fun e => declarationsIn (each e)) := by
    obtain ⟨fields'', fromRoot', -, place', located', parts', same⟩ :=
      parts.reordered located outside reordered
    obtain rfl : fields'' = fields' := by simpa using place'.symm.trans place
    refine ⟨_, parts'.yields located', ?_⟩
    rw [Context.modelsOfParts, declarationsOf_modelsWith, same]
  rw [parts.agree_iff, ← distinctDeclarations_perm_iff, Context.modelsOfParts,
    declarationsOf_modelsWith]
  constructor
  · intro same fields' perm
    obtain place | rfl := place_of_definitions? located
    · obtain ⟨document', reordered, place'⟩ := exists_reordered place perm distinct
      obtain ⟨ms', inferred', declares⟩ := same document' reordered
      obtain ⟨ms'', inferred'', held⟩ := yields reordered place'
      obtain rfl : ms' = ms'' := by simpa using inferred'.symm.trans inferred''
      rwa [held] at declares
    · obtain rfl := perm.nil_eq
      exact fun _ => Iff.rfl
  · intro same document' reordered
    obtain ⟨fields', _, perm, there, -⟩ := parts.reordered located outside reordered
    obtain ⟨ms', inferred', held⟩ := yields reordered there
    use ms', inferred'
    rw [held]
    exact same fields' perm

end

/-- An object that refers to itself. -/
def selfReferring : Json :=
  .object
    [("type", .string "object"),
      ("properties", .object [("self", .object [("$ref", .string "#/definitions/D")])])]

/-- An alias, followed by what it stands for. -/
def aliasFirst : Json :=
  .object [("definitions", .object
    [("A", .object [("$ref", .string "#/definitions/D")]), ("D", selfReferring)])]

/-- An alias after what it stands for. -/
def aliasLast : Json :=
  .object [("definitions", .object
    [("D", selfReferring), ("A", .object [("$ref", .string "#/definitions/D")])])]

/-- The types of the fields that are declared for a document, if there are any. -/
def fieldTypes (document : Json) : Option (List (String × List FieldType)) :=
  (inferModels document (.string "org.acme") defaultMetaNamespace []).outcome.toOption.map
    fun ms => (declarationsOf ms).map fun d => (d.name, d.fields.map Field.type)

theorem reordered_aliasFirst :
  Reordered ["definitions"] aliasFirst aliasLast
  := by
  have first : lookup? "definitions" [] = none := rfl
  exact .inside first (.here (.swap _ _ _) (by decide))

theorem fieldTypes_aliasFirst :
  fieldTypes aliasFirst = some [("D", [.declared "definitions$_D"])]
  := by
  decide +kernel

theorem fieldTypes_aliasLast :
  fieldTypes aliasLast = some [("D", [.declared "D"])]
  := by
  decide +kernel

/-- The alias brings forth its object while the reference to it is being followed, so that the
object cannot name its own type. -/
theorem sameDeclarations_iff_agree_aliasFirst :
  ¬ Agree aliasFirst ((Context.start (.string "org.acme") defaultMetaNamespace []).enter aliasFirst)
    [("A", .object [("$ref", .string "#/definitions/D")]), ("D", selfReferring)]
  := by
  intro agree
  obtain ⟨ms, inferred⟩ : ∃ ms, (inferModels aliasFirst (.string "org.acme") defaultMetaNamespace
      []).outcome = .ok ms := Report.exists_outcome_eq_ok (by decide +kernel)
  have located : ((Context.start (.string "org.acme") defaultMetaNamespace []).enter
      aliasFirst).definitions? =
        some [("A", .object [("$ref", .string "#/definitions/D")]), ("D", selfReferring)] := by
    decide +kernel
  obtain ⟨ms', inferred', same⟩ :=
    (@sameDeclarations_iff_agree _ _ _ [] _ ms inferred located (by decide) (by decide)).mpr agree
      aliasLast reordered_aliasFirst
  have inferred' : (inferModels aliasLast (.string "org.acme") defaultMetaNamespace
      []).outcome = .ok ms' := inferred'
  have types : (declarationsOf ms).map (fun d => (d.name, d.fields.map Field.type)) =
      [("D", [.declared "definitions$_D"])] := by
    simpa [fieldTypes, inferred, Except.toOption] using fieldTypes_aliasFirst
  have types' : (declarationsOf ms').map (fun d => (d.name, d.fields.map Field.type)) =
      [("D", [.declared "D"])] := by
    simpa [fieldTypes, inferred', Except.toOption] using fieldTypes_aliasLast
  have mem : ("D", [FieldType.declared "D"]) ∈
      (declarationsOf ms').map fun d => (d.name, d.fields.map Field.type) := by simp [types']
  obtain ⟨d, mem, own⟩ := List.mem_map.mp mem
  have mem := List.mem_map_of_mem (f := fun d : Declaration => (d.name, d.fields.map Field.type))
    ((same d).mp mem)
  rw [types] at mem
  simp [own] at mem

/-- The order of an alias and of what it stands for decides the type of a field. -/
theorem fieldTypes_of_reordered :
  Reordered ["definitions"] aliasFirst aliasLast ∧
    fieldTypes aliasFirst = some [("D", [.declared "definitions$_D"])] ∧
    fieldTypes aliasLast = some [("D", [.declared "D"])]
  := by
  constructor
  · exact reordered_aliasFirst
  · exact ⟨fieldTypes_aliasFirst, fieldTypes_aliasLast⟩

end ConceptModel.Inference

import ConceptModel.Proofs.Inference.RouteFields

/-!
# Places of inline declarations

A schema that stands in the properties of another one is read under the path of its place.
When it is an object with properties of its own, the path is joined to a single segment for
its definition, and what stands in it is read under paths that begin with this one.  But
joining once more gives what joining the whole path gives, so a declaration is named by the
whole path of its place in the definition, however deep it is nested: `settles_of_nests`.
-/

namespace ConceptModel.Inference

open Relation Text

/-! ### Joined paths -/

/-- Joining a path after its first segments have been joined is joining it. -/
theorem pathName_join
    {p : List String} (filled : p ≠ []) (rest : List String) :
  pathName ([pathName p] ++ rest) = pathName (p ++ rest)
  := by
  unfold pathName
  cases rest with
  | nil => simp
  | cons segment rest =>
    rw [String.intercalate_append_of_ne_nil (by simp) (by simp),
      String.intercalate_append_of_ne_nil filled (by simp), String.intercalate_singleton]

/-- The path of what stands under keys, each in the properties of the one before. -/
def placeUnder (path keys : List String) : List String :=
  path ++ keys.flatMap fun key => ["properties", key]

@[simp]
theorem placeUnder_nil (path : List String) :
  placeUnder path [] = path
  := by simp [placeUnder]

theorem placeUnder_cons (path : List String) (key : String) (keys : List String) :
  placeUnder path (key :: keys) = placeUnder (path ++ ["properties"] ++ [key]) keys
  := by simp [placeUnder]

/-- Names of places may be joined at any key. -/
theorem pathName_placeUnder_join
    {p : List String} (filled : p ≠ []) (keys : List String) :
  pathName (placeUnder [pathName p] keys) = pathName (placeUnder p keys)
  := pathName_join filled _

/-! ### Nesting -/

/-- Whether a schema stands under a key in the properties of another one: as it is, as the items
of an array, or as a first alternative. -/
def StandsIn (v : Json) (key : String) (u : Json) : Prop :=
  ∃ members w, (Body.ofJson v).getD "properties" = .object members ∧ (key, w) ∈ members ∧
    ReflTransGen Onward w u

/-- Whether a schema stands under keys, each in the properties of the one before, which are
objects with properties of their own. -/
inductive Nests : Json → List String → Json → Prop where
  | last {v u : Json} {key : String} (stands : StandsIn v key u) : Nests v [key] u
  | within {v w u : Json} {key : String} {keys : List String} (stands : StandsIn v key w)
      (inline : (Body.ofJson w).propertyRule = .inline) (rest : Nests w keys u) :
      Nests v (key :: keys) u

/-- A property reaches what it is read as. -/
theorem reached_onward
    {v u : Json} {path : List String} (free : nameOf path ∉ reservedNames)
    (onward : ReflTransGen Onward v u) (c : Context) :
  ∃ c', ReflTransGen HandsOn (⟨.property, v, path⟩, c) (⟨.property, u, path⟩, c')
  := by
  induction onward using ReflTransGen.head_induction_on generalizing c with
  | refl => exact ⟨c, .refl⟩
  | head step _ ih =>
    cases step with
    | alternation rule =>
      obtain ⟨c', reached⟩ := ih c
      exact ⟨c', .head (.alternation free rule) reached⟩
    | items rule held noArray =>
      obtain ⟨c', reached⟩ := ih _
      exact ⟨c', .head (.array free rule) (.head (.items held noArray) reached)⟩

theorem nameOf_member (path : List String) (key : String) :
  nameOf (path ++ ["properties"] ++ [key]) = key
  := by simp [nameOf]

/-- A concept hands on to what stands in its properties, at least as far as a reserved key. -/
theorem StandsIn.reached
    {v u : Json} {key : String} (h : StandsIn v key u)
    (rule : (Body.ofJson v).structuralRule = .concept) {path : List String}
    (fits : MayBeConcept (Body.ofJson v) path) (c : Context) :
  ∃ t c', ReflTransGen HandsOn (⟨.structural, v, path⟩, c)
    (⟨.property, t, path ++ ["properties"] ++ [key]⟩, c') ∧ (key ∉ reservedNames → t = u)
  := by
  obtain ⟨members, w, held, mem, onward⟩ := h
  have concept := HandsOn.concept (c := c) rule fits (by simp [held])
  rw [held] at concept
  have member := ReflTransGen.head concept (.single (.member mem))
  by_cases reserved : key ∈ reservedNames
  · exact ⟨w, _, member, fun free => absurd reserved free⟩
  · have free : nameOf (path ++ ["properties"] ++ [key]) ∉ reservedNames := by
      rwa [nameOf_member]
    obtain ⟨c', further⟩ := reached_onward free onward _
    exact ⟨u, c', member.trans further, fun _ => rfl⟩

/-- An inline object is reached as a definition under the name of its place. -/
theorem reached_inline
    {v : Json} {path : List String} (free : nameOf path ∉ reservedNames)
    (inline : (Body.ofJson v).propertyRule = .inline) (c : Context) :
  ReflTransGen HandsOn (⟨.property, v, path⟩, c) (⟨.structural, v, [pathName path]⟩, c.bare)
  := by
  obtain ⟨noList, -, isObject⟩ := Body.inline_of_propertyRule inline
  have isSet : (Body.ofJson v).getD "properties" ≠ .null := by
    intro unset
    simp [unset, Json.isObject] at isObject
  have definition := HandsOn.inline (c := c) free inline
  rw [Body.object_ofJson isSet (by decide)] at definition
  refine .head definition (.single (.structured ?_))
  intro elements lists
  have listed := Body.enumeration?_eq_some.mpr (Body.get?_eq_array_iff.mp (Body.get?_ofJson lists))
  simp [noList] at listed

/-- A definition reaches the alternatives that it takes. -/
theorem reached_takes
    {v w : Json} {path : List String} {c : Context} (takes : ReflTransGen Takes v w) :
  ReflTransGen HandsOn (⟨.definition, v, path⟩, c) (⟨.definition, w, path⟩, c)
  := by
  induction takes with
  | refl => exact .refl
  | tail _ step ih =>
    obtain ⟨noList, rule, rfl⟩ := step
    exact (ih.tail (.structured (not_exists.mp noList))).tail (.firstAlternative rule)

/-- How far the reading of what stands under keys comes: to a property whose key is reserved, or
to the schema under all of them, at a path that is joined to that of its place. -/
inductive Lands (x : Visit) (path keys : List String) (u : Json) : Prop where
  | barred {t : Json} {q : List String} {c : Context} (key : nameOf q ∈ keys)
      (reserved : nameOf q ∈ reservedNames)
      (reached : ReflTransGen HandsOn x (⟨.property, t, q⟩, c))
  | through {q : List String} {c : Context} (key : keys.getLast? = some (nameOf q))
      (free : ∀ k ∈ keys, k ∉ reservedNames)
      (place : pathName q = pathName (placeUnder path keys))
      (reached : ReflTransGen HandsOn x (⟨.property, u, q⟩, c))

/-- The step from a definition to what stands under a first key, at a path of its own, leaves
what there is to come. -/
theorem Lands.within
    {x y : Visit} {path keys : List String} {key : String} {u : Json}
    (h : Lands y [pathName (path ++ ["properties"] ++ [key])] keys u)
    (free : key ∉ reservedNames) (reached : ReflTransGen HandsOn x y) :
  Lands x path (key :: keys) u
  := by
  cases h with
  | barred among reserved rest =>
    exact .barred (.tail key among) reserved (reached.trans rest)
  | through last others place rest =>
    apply Lands.through _ _ _ (reached.trans rest)
    · simp [List.getLast?_cons, last]
    · simpa using ⟨free, others⟩
    · rw [place, pathName_placeUnder_join (by simp), placeUnder_cons]

theorem Nests.lands
    {v u : Json} {keys : List String} (h : Nests v keys u)
    (rule : (Body.ofJson v).structuralRule = .concept) {path : List String}
    (fits : MayBeConcept (Body.ofJson v) path) (c : Context) :
  Lands (⟨.structural, v, path⟩, c) path keys u
  := by
  induction h generalizing path c with
  | @last v u key stands =>
    obtain ⟨t, c', reached, through⟩ := stands.reached rule fits c
    by_cases reserved : key ∈ reservedNames
    · exact .barred (by rw [nameOf_member]; simp) (by rwa [nameOf_member]) reached
    · obtain rfl := through reserved
      exact .through (by rw [nameOf_member]; simp) (by simpa using reserved)
        (by simp [placeUnder_cons]) reached
  | @within v w u key keys stands inline _ ih =>
    obtain ⟨t, c', reached, through⟩ := stands.reached rule fits c
    by_cases reserved : key ∈ reservedNames
    · exact .barred (by rw [nameOf_member]; simp) (by rwa [nameOf_member]) reached
    · obtain rfl := through reserved
      have free : nameOf (path ++ ["properties"] ++ [key]) ∉ reservedNames := by
        rwa [nameOf_member]
      have concept := (Body.inline_of_propertyRule inline).2.1
      -- The path of its definition has one segment, where a concept need not be of type object.
      have fits : MayBeConcept (Body.ofJson t) [pathName (path ++ ["properties"] ++ [key])] :=
        ⟨false, rfl, rfl⟩
      have inside := ih concept fits c'.bare
      exact inside.within reserved (reached.trans (reached_inline free inline c'))

/-! ### Declarations of places -/

/-- Whether a property brings forth a declaration of its own: it lists its values, or it is an
object with properties. -/
def BringsForth (u : Json) : Prop :=
  (Body.ofJson u).propertyRule = .inline ∨
    ∃ elements, (Body.ofJson u).propertyRule = .enumeration elements

/-- A property that brings forth a declaration has a field of this type, and both are named by
its place. -/
theorem declared_of_reads
    {u : Json} {q : List String} {c : Context} {own : Results} (brings : BringsForth u)
    (free : nameOf q ∉ reservedNames) (reads : Reads ⟨.property, u, q⟩ c own) :
  ∃ f d rest, own.flatten = .field f :: .declaration d :: rest ∧
    f.type = .declared (normalizeName (pathName q)) ∧ d.name = normalizeName (pathName q) ∧
    d.IsSpawned
  := by
  obtain inline | ⟨elements, rule⟩ := brings
  · obtain ⟨members, held⟩ := Json.exists_of_isObject (Body.inline_of_propertyRule inline).2.2
    obtain ⟨each, -, flat⟩ := each_of_inline free inline held reads
    rw [flatten_conceptResults] at flat
    exact ⟨_, _, _, flat, rfl, rfl, trivial⟩
  · obtain rfl := reads.unique (.choice free rule)
    exact ⟨_, _, _, Nested.flatten_ofList _, rfl, rfl, trivial⟩

/-- What comes of a schema under keys, among the results of a reading: nothing, because a key on
the way is reserved; or a field and a declaration, which are both named by the place. -/
inductive Settles (x : Visit) (found : Results) (keys : List String) (u : Json) (place : String) :
    Prop where
  | barred {t : Json} {q : List String} {c : Context} (key : nameOf q ∈ keys)
      (reserved : nameOf q ∈ reservedNames)
      (reached : ReflTransGen HandsOn x (⟨.property, t, q⟩, c))
      (reads : Reads ⟨.property, t, q⟩ c .nothing)
  | declared {q : List String} {c : Context} {own : Results} {f : Field} {d around : Declaration}
      {rest : List Found} (free : ∀ k ∈ keys, k ∉ reservedNames)
      (key : keys.getLast? = some (nameOf q)) (joined : pathName q = place)
      (reached : ReflTransGen HandsOn x (⟨.property, u, q⟩, c))
      (reads : Reads ⟨.property, u, q⟩ c own)
      (flat : own.flatten = .field f :: .declaration d :: rest)
      (type : f.type = .declared (normalizeName place)) (named : d.name = normalizeName place)
      (spawned : .declaration d ∈ found.flatten)
      (fielded : .declaration around ∈ found.flatten ∧ f ∈ around.fields)

/-- Whether a definition is read as a concept, once first alternatives have been taken; or whether
a property is, as which an array definition is read at its place. -/
inductive Opens : Fragment → Json → Prop where
  | definition {v w : Json} {path : List String} (takes : ReflTransGen Takes v w)
      (noList : ¬ Lists w) (rule : (Body.ofJson w).structuralRule = .concept) :
      Opens ⟨.definition, v, path⟩ w
  | property {v w : Json} {path : List String} (filled : path ≠ [])
      (free : nameOf path ∉ reservedNames) (onward : ReflTransGen Onward v w)
      (inline : (Body.ofJson w).propertyRule = .inline) :
      Opens ⟨.property, v, path⟩ w

/-- What is read as a concept is read so at a path that is joined to its own. -/
theorem Opens.reached
    {f : Fragment} {w : Json} (h : Opens f w) (c : Context) :
  f.role ≠ .document ∧ (Body.ofJson w).structuralRule = .concept ∧
    ∃ p c', ReflTransGen HandsOn (f, c) (⟨.structural, w, p⟩, c') ∧
      ∀ keys, pathName (placeUnder p keys) = pathName (placeUnder f.path keys)
  := by
  cases h with
  | @definition v w path takes noList rule =>
    use Role.noConfusion, rule, path, c
    exact ⟨(reached_takes takes).tail (.structured (not_exists.mp noList)), fun _ => rfl⟩
  | @property v w path filled free onward inline =>
    obtain ⟨c', reached⟩ := reached_onward free onward c
    use Role.noConfusion, (Body.inline_of_propertyRule inline).2.1, [pathName path], c'.bare
    exact ⟨reached.trans (reached_inline free inline c'), pathName_placeUnder_join filled⟩

/-- What stands under keys in a definition is named by the whole path of its place. -/
theorem settles_of_nests
    {f : Fragment} {w u : Json} {keys : List String} {c : Context} {found : Results}
    (opens : Opens f w) (nests : Nests w keys u) (brings : BringsForth u)
    (reads : Reads f c found) :
  Settles (f, c) found keys u
    (pathName (f.path ++ keys.flatMap fun key => ["properties", key]))
  := by
  obtain ⟨inside, rule, p, c', toConcept, join⟩ := opens.reached c
  obtain ⟨middle, asConcept, fromMiddle⟩ := reads_of_reached inside reads toConcept
  have fits : MayBeConcept (Body.ofJson w) p := by
    cases asConcept with
    | concept _ fits | unset _ fits => exact fits
    | _ => simp_all
  cases nests.lands rule fits c' with
  | barred key reserved reached =>
    exact .barred key reserved (toConcept.trans reached) (.reserved reserved)
  | through key free place reached =>
    obtain ⟨own, read, fromOwn⟩ := reads_of_reached Role.noConfusion asConcept reached
    obtain ⟨field, d, rest, flat, type, named, spawned⟩ :=
      declared_of_reads brings (free _ (List.mem_of_getLast? key)) read
    rw [join] at place
    rw [place] at type named
    have declared : .declaration d ∈ middle.flatten := fromOwn.spawned d spawned (by simp [flat])
    -- A concept yields no field of its own, so the field is one of a concept.
    have held : field ∈ heldFields own := by simp [heldFields, flat, Found.fields]
    obtain ⟨e, mem, held⟩ := List.mem_flatMap.mp (fromOwn.fields held)
    have noField := field?_of_reads asConcept rfl Role.noConfusion e mem
    cases e with
    | field g => simp [Found.field?] at noField
    | declaration around =>
      have concept := Declaration.isSpawned_of_mem_fields held
      exact .declared free key place (toConcept.trans reached) read flat type named
        (fromMiddle.spawned d spawned declared) ⟨fromMiddle.spawned around concept mem, held⟩
    | _ => simp [Found.fields] at held

/-- The unit of a quantity. -/
def unitChoice : Json := .object [("enum", .array [.string "kg", .string "m"])]

/-- A quantity, which has a unit. -/
def unitQuantity : Json :=
  .object [("type", .string "object"), ("properties", .object [("unit", unitChoice)])]

/-- A quantity, or else a note. -/
def quantityOrNote : Json :=
  .object [("anyOf", .array [unitQuantity, .object [("type", .string "string")]])]

/-- An array of items. -/
def listOf (item : Json) : Json := .object [("type", .string "array"), ("items", item)]

/-- An order of lines, each of which is a list of quantities and notes. -/
def nestedOrder : Json :=
  .object [("properties", .object [("lines", listOf (listOf quantityOrNote))])]

theorem settles_of_nests_nestedOrder :
  ∃ found, Reads ⟨.definition, nestedOrder, ["Root"]⟩ {} found ∧
    Settles (⟨.definition, nestedOrder, ["Root"]⟩, {}) found ["lines", "unit"] unitChoice
      (pathName ["Root", "properties", "lines", "properties", "unit"])
  := by
  obtain ⟨found, held⟩ : ∃ found, (readWithin 20
      ⟨.definition, nestedOrder, ["Root"]⟩ {}).outcome = .ok found :=
    Report.exists_outcome_eq_ok (by decide +kernel)
  have noList : ¬ Lists nestedOrder := by simp [Lists, nestedOrder, Json.get?, Json.lookup?]
  have merged : .object (Body.ofJson quantityOrNote).flattened = unitQuantity := by decide +kernel
  have first : Onward quantityOrNote unitQuantity :=
    merged ▸ Onward.alternation (by decide +kernel)
  have items {item : Json} (isObject : (Body.ofJson (listOf item)).propertyRule = .array)
      (noArray : item.isArray = false) : Onward (listOf item) item := .items isObject rfl noArray
  have onward : ReflTransGen Onward (listOf (listOf quantityOrNote)) unitQuantity :=
    .head (items (by decide +kernel) rfl) (.head (items (by decide +kernel) rfl) (.single first))
  have nests : Nests nestedOrder ["lines", "unit"] unitChoice := by
    apply Nests.within ⟨_, _, rfl, List.mem_singleton_self _, onward⟩ (by decide +kernel)
    exact .last ⟨_, _, rfl, List.mem_singleton_self _, .refl⟩
  use found, reads_of_readWithin held
  exact settles_of_nests (.definition .refl noList (by decide +kernel)) nests (.inr ⟨_, rfl⟩)
    (reads_of_readWithin held)

-- The unit is declared, and a field is of its type.
example :
  (readWithin 20 ⟨.definition, nestedOrder, ["Root"]⟩ {}).outcome.toOption.map Nested.flatten =
    some
      [.declaration (.concept "Root" false
          [{ name := "lines", isArray := true, isOptional := true,
             type := .declared "Root$_properties$_lines" }]),
        .declaration (.concept "Root$_properties$_lines" false
          [{ name := "unit", isOptional := true,
             type := .declared "Root$_properties$_lines$_properties$_unit" }]),
        .declaration (.enumeration "Root$_properties$_lines$_properties$_unit" ["kg", "m"])]
  := by
  decide +kernel

end ConceptModel.Inference

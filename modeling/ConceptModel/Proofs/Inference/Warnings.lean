import ConceptModel.Proofs.Inference.Constructs
import ConceptModel.Proofs.Inference.Models
import ConceptModel.Proofs.Message
import Mathlib.Data.List.Nodup
import Mathlib.Data.List.Perm.Basic

/-!
# The warnings of a document

A reading warns of each unsupported construct once for each visit to it.  It reads through
the root and the definitions of the document, and whenever a reference has been resolved it
enters another place and reads through that as well, whatever has been read before.  So a
definition that a reference is followed to is visited again, and what there is to remark
about it is repeated.
-/

namespace ConceptModel.Inference

open Json Relation

/-! ### Entering other places -/

/-- The visits by which a reading to a depth enters other places of the document. -/
def enteredWithin : Nat → Visit → List Visit
  | 0, _ => []
  | depth + 1, x =>
    (partsOf x).flatMap (enteredWithin depth) ++
      (elsewhere (readWithin depth) x).flatMap fun y => y :: enteredWithin depth y

section

variable {depth deeper : Nat} {x y : Visit} {found : Results}

theorem reads_of_outcome
    (depth : Nat) (f : Fragment) (c : Context) (r : Results)
    (h : (readWithin depth f c).outcome = .ok r) :
  Reads f c r
  := reads_of_readWithin h

/-- What a reading that has a result asks for has results. -/
theorem exists_outcome_of_mem
    (inside : x.1.role ≠ .document) (h : (readWithin (depth + 1) x.1 x.2).outcome = .ok found)
    (mem : y ∈ partsOf x ++ elsewhere (readWithin depth) x) :
  Asks x y ∧ ∃ asked, (readWithin depth y.1 y.2).outcome = .ok asked
  := by
  have asks : Asks x y := by
    obtain mem | mem := List.mem_append.mp mem
    · exact asks_of_mem_partsOf mem
    · exact asks_of_mem_elsewhere (reads_of_outcome depth) mem
  exact ⟨asks, exists_outcome_of_asks inside h asks⟩

/-- Where a fragment leads to depends on its reader only by what its parts yield. -/
theorem elsewhere_congr
    {read read' : Reader}
    (h : ∀ y ∈ partsOf x, (read y.1 y.2).outcome = (read' y.1 y.2).outcome) :
  elsewhere read x = elsewhere read' x
  := by
  obtain ⟨⟨role, v, path⟩, c⟩ := x
  cases role with
  | property =>
    simp only [elsewhere, resumedOf]
    split
    · rfl
    next rule =>
      simp only [Bool.or_eq_true, decide_eq_true_eq, not_or, not_not, List.contains_iff_mem]
        at rule
      have mem : (⟨.reference, (Body.ofJson v).getD "$ref", path⟩, c.bare) ∈
          partsOf (⟨.property, v, path⟩, c) := by
        simp [partsOf, partsOfProperty, rule]
      have same : (read ⟨.reference, (Body.ofJson v).getD "$ref", path⟩ c.bare).outcome = _ :=
        h _ mem
      rw [same]
  | _ => rfl

/-- A deeper reading enters the same places. -/
theorem enteredWithin_eq_of_le
    (le : depth ≤ deeper) (inside : x.1.role ≠ .document)
    (h : (readWithin depth x.1 x.2).outcome = .ok found) :
  enteredWithin deeper x = enteredWithin depth x
  := by
  induction depth generalizing x deeper found with
  | zero => simp [readWithin] at h
  | succ depth ih =>
    obtain ⟨deeper, rfl⟩ := Nat.exists_eq_succ_of_ne_zero (Nat.ne_zero_of_lt le)
    have le := Nat.le_of_succ_le_succ le
    have asked {y : Visit} (mem : y ∈ partsOf x ++ elsewhere (readWithin depth) x) :
        enteredWithin deeper y = enteredWithin depth y := by
      obtain ⟨asks, asked, h⟩ := exists_outcome_of_mem inside h mem
      exact ih le (stays_of_asks inside asks).2.2 h
    have same : elsewhere (readWithin deeper) x = elsewhere (readWithin depth) x := by
      apply elsewhere_congr
      intro y mem
      obtain ⟨-, asked, h⟩ := exists_outcome_of_mem inside h (List.mem_append_left _ mem)
      rw [outcome_eq_ok_of_le le h, h]
    rw [enteredWithin, enteredWithin, same]
    congr 1
    · exact List.flatMap_congr fun y mem => asked (List.mem_append_left _ mem)
    · exact List.flatMap_congr fun y mem => by rw [asked (List.mem_append_right _ mem)]

/-- The warnings of a reading are the messages about what is inside its fragment, and about
what is inside the places that it enters. -/
theorem readWithin_warnings_perm
    (inside : x.1.role ≠ .document) (fits : x.1.Fits)
    (h : (readWithin depth x.1 x.2).outcome = .ok found) :
  (readWithin depth x.1 x.2).warnings.Perm
    (x.1.messages ++ (enteredWithin depth x).flatMap fun y => y.1.messages)
  := by
  induction depth generalizing x found with
  | zero => simp [readWithin] at h
  | succ depth ih =>
    have asked {y : Visit} (mem : y ∈ partsOf x ++ elsewhere (readWithin depth) x) :
        (readWithin depth y.1 y.2).warnings.Perm
          (y.1.messages ++ (enteredWithin depth y).flatMap fun y => y.1.messages) := by
      obtain ⟨asks, asked, h⟩ := exists_outcome_of_mem inside h mem
      exact ih (stays_of_asks inside asks).2.2 (fits_of_asks asks) h
    have parts : (warningsOfAll (readWithin depth) (partsOf x)).Perm
        (x.1.parts.flatMap Fragment.messages ++
          ((partsOf x).flatMap (enteredWithin depth)).flatMap fun y => y.1.messages) := by
      have same : x.1.parts.flatMap Fragment.messages =
          (partsOf x).flatMap fun y => y.1.messages := by
        rw [Fragment.parts, map_fst_partsOf x.1 _ x.2, List.flatMap_map]
      rw [same, List.flatMap_assoc]
      exact (List.Perm.flatMap_left _ fun y mem => asked (List.mem_append_left _ mem)).trans
        (List.flatMap_append_perm _ _ _).symm
    have others : (warningsOfAll (readWithin depth) (elsewhere (readWithin depth) x)).Perm
        (((elsewhere (readWithin depth) x).flatMap fun y =>
          y :: enteredWithin depth y).flatMap fun y => y.1.messages) := by
      rw [List.flatMap_assoc]
      exact List.Perm.flatMap_left _ fun y mem => asked (List.mem_append_right _ mem)
    have step : (readWithin (depth + 1) x.1 x.2).warnings = x.1.message?.toList ++
        (warningsOfAll (readWithin depth) (partsOf x) ++
          warningsOfAll (readWithin depth) (elsewhere (readWithin depth) x)) := by
      rw [warningsOfAll, warningsOfAll, ← List.flatMap_append]
      exact step_warnings inside h
    rw [step, Fragment.messages_eq fits, enteredWithin, List.flatMap_append, List.append_assoc,
      ← List.append_assoc (x.1.parts.flatMap Fragment.messages)]
    exact (parts.append others).append_left _

end

/-! ### Documents -/

/-- The visits with which a document is begun to be read: its root and its definitions. -/
def starts (document : Json) (c : Context) : List Visit :=
  match (rootName document).outcome with
  | .ok root =>
    (⟨.definition, document, [root]⟩, c.enter document) ::
      membersOf .definition (.object ((c.enter document).definitions?.getD []))
        (c.enter document).container (c.enter document)
  | .error _ => []

/-- The visits by which other places are entered while a document is read. -/
def entered (document : Json) (c : Context) : List Visit :=
  (starts document c).flatMap (enteredWithin (documentDepth document))

/-- The fragments that are visited while a document is read, each as often as it is. -/
def visited (document : Json) (c : Context) : List Fragment :=
  (starts document c ++ entered document c).flatMap fun x => x.1.inside

section

variable {document : Json} {c : Context} {root : String} {r : Results}

theorem readDocument_warnings
    {read : Reader} (named : (rootName document).outcome = .ok root)
    (h : (readDocument read document c).outcome = .ok r) :
  (readDocument read document c).warnings =
    (read ⟨.definition, document, [root]⟩ (c.enter document)).warnings ++
      (readContainer read (c.enter document)).warnings
  := by
  simp only [readDocument, Report.bind_outcome_eq_ok] at h
  obtain ⟨_, named', _, -, fromRoot, first, fromDefinitions, second, -⟩ := h
  obtain rfl := by simpa using named.symm.trans named'
  rw [readDocument, Report.bind_warnings named, warnings_rootName,
    Report.bind_warnings (Report.note_outcome _), Report.bind_warnings first,
    Report.bind_warnings second, Report.bind_warnings_of_pure]
  simp

theorem readContainer_warnings
    {depth : Nat} (h : (readContainer (readWithin (depth + 1)) c).outcome = .ok r) :
  (readContainer (readWithin (depth + 1)) c).warnings =
    warningsOfAll (readWithin depth)
      (membersOf .definition (.object (c.definitions?.getD [])) c.container c)
  := by
  unfold readContainer at h ⊢
  split
  next fields held =>
    simp only [held] at h
    simp only [held, Option.getD_some]
    exact readMembers_warnings h
  next unknown =>
    simp [unknown, membersOf, warningsOfAll]

theorem exists_outcome_of_readContainer
    {depth : Nat} (h : (readContainer (readWithin (depth + 1)) c).outcome = .ok r) {x : Visit}
    (mem : x ∈ membersOf .definition (.object (c.definitions?.getD [])) c.container c) :
  x.1.role = .definition ∧ ∃ found, (readWithin depth x.1 x.2).outcome = .ok found
  := by
  obtain ⟨e, held, rfl⟩ := List.mem_map.mp mem
  unfold readContainer at h
  split at h
  next fields known =>
    rw [known, Option.getD_some] at held
    obtain ⟨_, same, _, each, -⟩ := readMembers_outcome_eq_ok.mp h
    obtain rfl := by simpa using same
    obtain ⟨each, found, -⟩ := readEach_outcome_eq_ok.mp each
    exact ⟨rfl, _, found e held⟩
  next unknown => simp [unknown] at held

/-- The warnings of what a document begins to be read with. -/
theorem readWithin_start_warnings_perm
    {bound depth : Nat} (le : depth ≤ bound) (x : Visit) (isDefinition : x.1.role = .definition)
    (h : (readWithin depth x.1 x.2).outcome = .ok r) :
  (readWithin depth x.1 x.2).warnings.Perm
    (x.1.messages ++ (enteredWithin bound x).flatMap fun y => y.1.messages)
  := by
  have inside : x.1.role ≠ .document := by simp [isDefinition]
  rw [enteredWithin_eq_of_le le inside h]
  exact readWithin_warnings_perm inside (by simp [Fragment.Fits, isDefinition]) h

/-- The warnings of a document are the messages about the fragments that are visited. -/
theorem readWithin_document_warnings_perm
    {depth : Nat} (le : depth + 2 ≤ documentDepth document)
    (h : (readWithin (depth + 2) ⟨.document, document, []⟩ c).outcome = .ok r) :
  (readWithin (depth + 2) ⟨.document, document, []⟩ c).warnings.Perm
    ((visited document c).filterMap Fragment.message?)
  := by
  change (readDocument (readWithin (depth + 1)) document c).outcome = _ at h
  change (readDocument (readWithin (depth + 1)) document c).warnings.Perm _
  have parts := h
  simp only [readDocument, Report.bind_outcome_eq_ok] at parts
  obtain ⟨root, named, _, -, fromRoot, first, fromDefinitions, second, -⟩ := parts
  have all : (readDocument (readWithin (depth + 1)) document c).warnings.Perm
      ((starts document c).flatMap fun x => x.1.messages ++
        (enteredWithin (documentDepth document) x).flatMap fun y => y.1.messages) := by
    rw [starts, named, List.flatMap_cons, readDocument_warnings named h,
      readContainer_warnings second]
    apply List.Perm.append
    · exact readWithin_start_warnings_perm (by omega)
        (⟨.definition, document, [root]⟩, c.enter document) rfl first
    · apply List.Perm.flatMap_left
      intro x mem
      obtain ⟨isDefinition, found, held⟩ := exists_outcome_of_readContainer second mem
      exact readWithin_start_warnings_perm (by omega) x isDefinition held
  have sum : (visited document c).filterMap Fragment.message? =
      ((starts document c).flatMap fun x => x.1.messages) ++
        (starts document c).flatMap fun x =>
          (enteredWithin (documentDepth document) x).flatMap fun y => y.1.messages := by
    rw [visited, List.filterMap_flatMap, List.flatMap_append, entered, List.flatMap_assoc]
    rfl
  rw [sum]
  exact all.trans (List.flatMap_append_perm _ _ _).symm

/-! ### Definitions that are entered -/

/-- What is entered has been led to by a fragment on the way. -/
theorem exists_elsewhere_of_mem_enteredWithin
    {depth : Nat} {x y : Visit} (h : y ∈ enteredWithin depth x) :
  ∃ z near, ReflTransGen Asks x z ∧ y ∈ elsewhere (readWithin near) z
  := by
  induction depth generalizing x with
  | zero => simp [enteredWithin] at h
  | succ depth ih =>
    obtain mem | mem := List.mem_append.mp h
    · obtain ⟨w, part, mem⟩ := List.mem_flatMap.mp mem
      obtain ⟨z, near, reached, leads⟩ := ih mem
      exact ⟨z, near, .head (asks_of_mem_partsOf part) reached, leads⟩
    · obtain ⟨w, other, mem⟩ := List.mem_flatMap.mp mem
      obtain rfl | mem := List.mem_cons.mp mem
      · exact ⟨x, depth, .refl, other⟩
      · obtain ⟨z, near, reached, leads⟩ := ih mem
        have asks := asks_of_mem_elsewhere (reads_of_outcome depth) other
        exact ⟨z, near, .head asks reached, leads⟩

/-- What a fragment leads to is a definition of the document, or an array that is resumed. -/
theorem definition?_of_mem_elsewhere
    {read : Reader} {x y : Visit} (h : y ∈ elsewhere read x)
    (isDefinition : y.1.role = .definition) :
  ∃ key v, definition? x.2.document x.2.container key = some v ∧
    y.1 = ⟨.definition, v, placeOf x.2.container ++ [key]⟩
  := by
  obtain ⟨⟨role, v, path⟩, c⟩ := x
  cases role with
  | localReference =>
    cases v with
    | string reference =>
      simp only [elsewhere, followedOf] at h
      split at h
      next pointer w resolves =>
        split at h
        · simp at h
        · obtain rfl := List.mem_singleton.mp h
          obtain ⟨key, leads, same⟩ := resolve_eq_definition resolves rfl
          exact ⟨key, w, leads.definition?, by rw [← same]⟩
      · simp at h
    | _ => simp [elsewhere] at h
  | property =>
    simp only [elsewhere, resumedOf] at h
    split at h
    · simp at h
    · split at h
      · obtain rfl := List.mem_singleton.mp h
        simp at isDefinition
      · simp at h
  | _ => simp [elsewhere] at h

theorem role_of_mem_starts
    {x : Visit} (h : x ∈ starts document c) :
  x.1.role = .definition ∧ x.2 = c.enter document
  := by
  unfold starts at h
  split at h
  · obtain rfl | mem := List.mem_cons.mp h
    · exact ⟨rfl, rfl⟩
    · obtain ⟨e, -, rfl⟩ := List.mem_map.mp mem
      exact ⟨rfl, rfl⟩
  · simp at h

/-- A definition that is entered is one of those that are read in their places. -/
theorem exists_start_of_mem_entered
    {y : Visit} (h : y ∈ entered document c) (isDefinition : y.1.role = .definition) :
  ∃ x ∈ starts document c, x.1 = y.1
  := by
  obtain ⟨x, start, mem⟩ := List.mem_flatMap.mp h
  obtain ⟨z, near, reached, leads⟩ := exists_elsewhere_of_mem_enteredWithin mem
  obtain ⟨role, context⟩ := role_of_mem_starts start
  obtain ⟨sameDocument, sameContainer, -⟩ :=
    stays_of_reached (by simp [role] : x.1.role ≠ .document) reached
  obtain ⟨key, v, held, same⟩ := definition?_of_mem_elsewhere leads isDefinition
  rw [sameDocument, sameContainer, context] at held
  obtain ⟨fields, known, stands, place⟩ :=
    definitions?_of_definition? (c := c.enter document) rfl rfl held
  rw [sameContainer, context] at same
  refine ⟨(⟨.definition, v, (c.enter document).container ++ [key]⟩, c.enter document), ?_, ?_⟩
  · unfold starts at start ⊢
    split at start
    next root named =>
      rw [known, Option.getD_some]
      apply List.mem_cons_of_mem
      exact List.mem_map.mpr ⟨(key, v), mem_of_lookup?_eq_some stands, rfl⟩
    · simp at start
  · rw [same]
    change _ = Fragment.mk .definition v (placeOf (containerOf document c.container) ++ [key])
    rw [place]
    rfl

end

/-! ### Repetitions -/

theorem isPlain_of_remark?
    {f : Fragment} {w : Warning} (h : f.remark? = some w)
    (plain : ∀ format name, w = .formatIgnored format name → '\'' ∉ name.toList) :
  w.IsPlain ∧ w.name = nameOf f.path
  := by
  have keyword (b : Body) : b.alternationKeyword ∈ Body.alternationKeywords := by
    unfold Body.alternationKeyword Body.alternationKeywords
    split <;> simp
  obtain ⟨role, v, path⟩ := f
  simp only [Fragment.remark?] at h
  split at h
  · split at h
    · obtain rfl := Option.some.inj h
      exact ⟨keyword _, rfl⟩
    · simp at h
  · split at h
    · simp at h
    · split at h
      · obtain rfl := Option.some.inj h
        exact ⟨keyword _, rfl⟩
      · obtain rfl := Option.some.inj h
        exact ⟨trivial, rfl⟩
      · split at h
        · obtain rfl := Option.some.inj h
          exact ⟨plain _ _ rfl, rfl⟩
        · simp at h
      · simp at h
  · split at h
    · obtain rfl := Option.some.inj h
      split <;> exact ⟨trivial, rfl⟩
    · simp at h
  · simp at h

/-- Whether messages tell the constructs among fragments apart. -/
structure Distinguished (fragments : List Fragment) : Prop where
  /-- No two schemas have the same name. -/
  names : ∀ f ∈ fragments, ∀ g ∈ fragments, f.message?.isSome → g.message?.isSome →
    nameOf f.path = nameOf g.path → f.path = g.path
  /-- About no schema the same is remarked twice, as when an alternative has alternatives. -/
  once : ∀ f ∈ fragments, ∀ g ∈ fragments, f.message?.isSome → f.path = g.path →
    f.message? = g.message? → f = g
  /-- No name after a format that is left out holds a quote. -/
  plain : ∀ f ∈ fragments, ∀ format name, f.remark? = some (.formatIgnored format name) →
    '\'' ∉ name.toList

theorem Distinguished.eq_of_message?_eq
    {fragments : List Fragment} (h : Distinguished fragments) {f g : Fragment}
    (hf : f ∈ fragments) (hg : g ∈ fragments) (isSome : f.message?.isSome)
    (same : f.message? = g.message?) :
  f = g
  := by
  have isSome' : g.message?.isSome := same ▸ isSome
  obtain ⟨w, remark⟩ := Option.isSome_iff_exists.mp (Option.isSome_map.symm.trans isSome)
  obtain ⟨w', remark'⟩ := Option.isSome_iff_exists.mp (Option.isSome_map.symm.trans isSome')
  obtain ⟨plain, named⟩ := isPlain_of_remark? remark fun format name same =>
    h.plain f hf format name (same ▸ remark)
  obtain ⟨plain', named'⟩ := isPlain_of_remark? remark' fun format name same =>
    h.plain g hg format name (same ▸ remark')
  have message : w.message = w'.message := by
    simpa [Fragment.message?, remark, remark'] using same
  have name := Warning.name_eq_of_message_eq plain plain' message
  rw [named, named'] at name
  exact h.once f hf g hg isSome (h.names f hf g hg isSome isSome' name) same

/-- There are no duplicates among messages that tell constructs apart just when there are
none among the constructs. -/
theorem Distinguished.nodup_iff
    {fragments : List Fragment} (h : Distinguished fragments) :
  (fragments.filterMap Fragment.message?).Nodup ↔
    (fragments.filter fun f => f.message?.isSome).Nodup
  := by
  rw [List.Nodup, List.Nodup, List.pairwise_filterMap, List.pairwise_filter]
  apply List.Pairwise.iff_of_mem
  intro f g hf hg
  constructor
  · rintro differ isSome isSome' rfl
    obtain ⟨m, held⟩ := Option.isSome_iff_exists.mp isSome
    exact differ m held m held rfl
  · rintro differ m held m' held' rfl
    have isSome : f.message?.isSome := by simp [held]
    have same : f.message? = g.message? := held.trans held'.symm
    exact differ isSome (same ▸ isSome) (h.eq_of_message?_eq hf hg isSome same)

/-- How the warnings of a document come about. -/
structure Reported (document : Json) (c : Context) (warnings : List String) : Prop where
  /-- Each unsupported construct is reported once for each visit to it. -/
  perm : warnings.Perm ((visited document c).filterMap Fragment.message?)
  /-- A definition that a reference is followed to is visited in its place as well. -/
  again : ∀ y ∈ entered document c, y.1.role = .definition → ∃ x ∈ starts document c, x.1 = y.1
  /-- If there are no duplicates, such a definition has no unsupported construct. -/
  silent : warnings.Nodup → ∀ y ∈ entered document c, y.1.role = .definition →
    y.1.messages = []
  /-- If messages tell constructs apart, there are no duplicates just when no construct is
  visited twice. -/
  nodup_iff : Distinguished (visited document c) →
    (warnings.Nodup ↔ ((visited document c).filter fun f => f.message?.isSome).Nodup)

theorem reported_of_perm
    {document : Json} {c : Context} {warnings : List String}
    (perm : warnings.Perm ((visited document c).filterMap Fragment.message?)) :
  Reported document c warnings
  where
  perm := perm
  again _ := exists_start_of_mem_entered
  silent nodup y mem isDefinition := by
    obtain ⟨x, start, same⟩ := exists_start_of_mem_entered mem isDefinition
    have nodup := perm.nodup_iff.mp nodup
    rw [visited, List.filterMap_flatMap, List.flatMap_append] at nodup
    apply List.eq_nil_iff_forall_not_mem.mpr
    intro m held
    apply List.disjoint_of_nodup_append nodup
    · exact List.mem_flatMap.mpr ⟨x, start, same ▸ held⟩
    · exact List.mem_flatMap.mpr ⟨y, mem, held⟩
  nodup_iff distinguished := by rw [perm.nodup_iff, distinguished.nodup_iff]

/-- The warnings of every document that is converted are those of all visits. -/
theorem reported_of_inferModels
    {document namespaceName : Json} {metaNamespace : String} {path : List Json} {ms : Models}
    (h : (inferModels document namespaceName metaNamespace path).outcome = .ok ms) :
  ∃ given, segments? path = some given ∧
    Reported document (.start namespaceName metaNamespace given)
      (inferModels document namespaceName metaNamespace path).warnings
  := by
  unfold inferModels at h ⊢
  split at h
  next given held =>
    refine ⟨given, held, ?_⟩
    obtain ⟨found, reads, -⟩ := Report.bind_outcome_eq_ok.mp h
    rw [Report.bind_warnings_of_pure]
    have positive : 0 < (document.size + 3) * (document.size + 3) * (document.size + 3) := by
      positivity
    have deep : 2 ≤ documentDepth document := by
      unfold documentDepth
      omega
    obtain ⟨depth, same⟩ := Nat.exists_eq_add_of_le' deep
    rw [read, depthBound_start, same] at reads ⊢
    exact reported_of_perm (readWithin_document_warnings_perm (Nat.le_of_eq same.symm) reads)
  next =>
    obtain ⟨_, -, failed⟩ := Report.bind_outcome_eq_ok.mp h
    simp at failed

/-- A text of a format that has no counterpart. -/
def mailText : Json := .object [("type", .string "string"), ("format", .string "email")]

/-- A reference to a definition. -/
def referenceTo (key : String) : Json := .object [("$ref", .string ("#/definitions/" ++ key))]

/-- Authors and books that refer to each other, and two properties with the same array. -/
def bookStore : Json :=
  .object
    [("properties", .object
      [("author", referenceTo "Author"), ("tags", referenceTo "Tags"),
        ("topics", referenceTo "Tags")]),
      ("definitions", .object
        [("Author", .object
          [("type", .string "object"),
            ("properties", .object [("mail", mailText), ("wrote", referenceTo "Book")])]),
        ("Book", .object
          [("type", .string "object"),
            ("properties", .object
              [("by", referenceTo "Author"),
                ("code", .object [("type", .array [.string "string", .string "integer"])])])]),
        ("Tags", .object
          [("type", .string "array"),
            ("items", .object [("anyOf", .array [.object [("type", .string "string")]])])])])]

/-- The book store is reported on once for each of the four visits to its authors, and once
for each of the two properties with tags. -/
theorem reported_of_inferModels_bookStore :
  (inferModels bookStore (.string "org.acme") defaultMetaNamespace []).outcome.toOption.isSome ∧
    (∃ given, segments? [] = some given ∧
      Reported bookStore (.start (.string "org.acme") defaultMetaNamespace given)
        (inferModels bookStore (.string "org.acme") defaultMetaNamespace []).warnings) ∧
    (inferModels bookStore (.string "org.acme") defaultMetaNamespace []).warnings.count
      (Warning.formatIgnored (.string "email") "mail").message = 4 ∧
    (inferModels bookStore (.string "org.acme") defaultMetaNamespace []).warnings.count
      (Warning.firstAlternative "anyOf" "Tags").message = 2
  := by
  have succeeds :
      (inferModels bookStore (.string "org.acme") defaultMetaNamespace
        []).outcome.toOption.isSome := by
    decide +kernel
  obtain ⟨ms, inferred⟩ := Report.exists_outcome_eq_ok succeeds
  exact ⟨succeeds, reported_of_inferModels inferred, by decide +kernel, by decide +kernel⟩

/-! ### Names -/

/-- The keys of an object. -/
def keysOf : Json → List String
  | .object fields => fields.map Prod.fst
  | _ => []

mutual

/-- The names of the definitions and the properties in a value. -/
def schemaNames : Json → List String
  | .array elements => schemaNamesOfElements elements
  | .object fields => schemaNamesOfFields fields
  | _ => []

/-- The names of the definitions and the properties in the elements of an array. -/
def schemaNamesOfElements : List Json → List String
  | [] => []
  | v :: rest => schemaNames v ++ schemaNamesOfElements rest

/-- The names of the definitions and the properties in the fields of an object. -/
def schemaNamesOfFields : List (String × Json) → List String
  | [] => []
  | (key, v) :: rest =>
    (if key = "definitions" ∨ key = "properties" then keysOf v else []) ++ schemaNames v ++
      schemaNamesOfFields rest

end

/-- A definition with a union that a property refers to. -/
def sharedUnion : Json :=
  .object
    [("properties", .object [("a", referenceTo "D")]),
      ("definitions", .object
        [("D", .object
          [("type", .string "object"),
            ("properties", .object
              [("u", .object [("type", .array [.string "string", .string "integer"])])])])])]

/-- An alternative that has alternatives. -/
def nestedAlternation : Json :=
  .object
    [("properties", .object
      [("a", .object
        [("anyOf", .array
          [.object [("anyOf", .array [.object [("type", .string "string")]])]])])])]

/-- A tuple of one element. -/
def mailTuple : Json :=
  .object
    [("type", .string "array"), ("items", .array [mailText]), ("minItems", .number (.int 1)),
      ("maxItems", .number (.int 1))]

/-- Two tuples, whose elements have the same position. -/
def twoTuples : Json := .object [("properties", .object [("p", mailTuple), ("q", mailTuple)])]

/-- Two formats that read the same together with the names after them. -/
def quotedFormats : Json :=
  .object
    [("properties", .object
      [("c", .object [("type", .string "string"), ("format", .string "a' in 'b")]),
        ("b' in 'c", .object [("type", .string "string"), ("format", .string "a")])])]

/-- Whether a document is converted with duplicates among the warnings although no two
definitions or properties have the same name. -/
def Repeats (document : Json) : Prop :=
  (inferModels document (.string "org.acme") defaultMetaNamespace []).outcome.toOption.isSome ∧
    (schemaNames document).Nodup ∧
    ¬ (inferModels document (.string "org.acme") defaultMetaNamespace []).warnings.Nodup

instance (document : Json) : Decidable (Repeats document) :=
  inferInstanceAs (Decidable (_ ∧ _ ∧ _))

/-- There are duplicates when a reference is followed, when an alternative has alternatives,
when elements of tuples have the same position, and when a name holds a quote. -/
theorem repeats_of_distinct_names :
  Repeats sharedUnion ∧ Repeats nestedAlternation ∧ Repeats twoTuples ∧ Repeats quotedFormats
  := by
  decide +kernel

end ConceptModel.Inference

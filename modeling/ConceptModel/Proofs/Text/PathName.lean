import ConceptModel.Proofs.Text.Delimited
import ConceptModel.Proofs.Text.Projection

/-!
# Names of paths

The name of a path is its segments with the separator between them.  The separator begins and
ends with different marks, so it does not overlap itself, and it stands in a name only where it
separates segments in which it does not stand, even when one ends with its first mark or begins
with its last.  So different paths of such segments have different names, and these stay different
when normalizing keeps them, which it does when they are spelled in identifiers.
-/

namespace ConceptModel.Text

/-! ### Segments -/

/-- Whether the separator of names does not stand in a text. -/
def Unseparated (s : String) : Prop := ¬ nameSeparator.toList <:+: s.toList

theorem toList_nameSeparator :
  nameSeparator.toList = ['$', '_']
  := rfl

/-- A segment ends where the separator stands. -/
theorem delimited_segment :
  Delimited String.toList Unseparated fun r => r = [] ∨ nameSeparator.toList <+: r
  := by
  -- What is left of the longer segment would begin where the other one ends, so with the
  -- separator, or with its first mark only, and then the separator would stand there twice.
  have longer {a b : String} {between r s : List Char} (hb : Unseparated b)
      (hr : r = [] ∨ nameSeparator.toList <+: r) (hs : s = [] ∨ nameSeparator.toList <+: s)
      (left : b.toList = a.toList ++ between) (right : r = between ++ s) : between = [] := by
    rw [toList_nameSeparator] at hr hs
    match between with
    | [] => rfl
    | [c] =>
      obtain rfl | ⟨rest, rfl⟩ := hs
      · obtain rfl | ⟨_, held⟩ := hr
        · simp at right
        · simp [right] at held
      · obtain rfl | ⟨_, rfl⟩ := hr
        · simp at right
        · simp at right
    | c :: d :: rest =>
      obtain rfl | ⟨_, rfl⟩ := hr
      · simp at right
      · obtain ⟨rfl, rfl, -⟩ : '$' = c ∧ '_' = d ∧ _ := by simpa using right
        exact absurd ⟨a.toList, rest, by simp [left, toList_nameSeparator]⟩ hb
  constructor
  intro a b r s ha hb hr hs same
  obtain ⟨between, left, right⟩ | ⟨between, left, right⟩ := List.append_eq_append_iff.mp same
  · obtain rfl := longer hb hr hs left right
    rw [List.append_nil] at left
    exact ⟨String.toList_inj.mp left.symm, right⟩
  · obtain rfl := longer ha hs hr left right
    rw [List.append_nil] at left
    exact ⟨String.toList_inj.mp left, right.symm⟩

/-! ### Paths -/

/-- The characters of segments, each behind the separator. -/
def separatedSegments (segments : List String) : List Char :=
  segments.flatMap fun s => nameSeparator.toList ++ s.toList

theorem toList_pathName_cons
    (first : String) (rest : List String) :
  (pathName (first :: rest)).toList = first.toList ++ separatedSegments rest
  := by
  induction rest generalizing first with
  | nil => simp [pathName, separatedSegments]
  | cons next rest ih =>
    have name :
        pathName (first :: next :: rest) = first ++ nameSeparator ++ pathName (next :: rest) :=
      String.intercalate_cons_cons
    rw [name, String.toList_append, String.toList_append, ih]
    simp [separatedSegments]

/-- What follows a segment begins with the separator. -/
theorem separatedSegments_begins
    (segments : List String) :
  separatedSegments segments = [] ∨ nameSeparator.toList <+: separatedSegments segments
  := by
  cases segments with
  | nil => exact .inl rfl
  | cons s segments =>
    right
    simp only [separatedSegments, List.flatMap_cons, List.append_assoc]
    exact List.prefix_append _ _

theorem delimited_separatedSegments :
  Delimited separatedSegments (fun segments => ∀ s ∈ segments, Unseparated s) (· = [])
  := by
  apply (delimited_segment.append_left nameSeparator.toList).flatMap
  · rintro segments r - rfl
    rw [List.append_nil]
    exact separatedSegments_begins segments
  · rintro s r - rfl begins
    simp [toList_nameSeparator] at begins

/-- A path of segments without the separator can be told from its name. -/
theorem pathName_inj
    {p q : List String} (hp : p ≠ []) (hq : q ≠ []) (unseparated : ∀ s ∈ p ++ q, Unseparated s) :
  pathName p = pathName q ↔ p = q
  := by
  constructor
  · intro same
    obtain ⟨first, rest, rfl⟩ := List.exists_cons_of_ne_nil hp
    obtain ⟨first', rest', rfl⟩ := List.exists_cons_of_ne_nil hq
    obtain ⟨left, right⟩ := List.forall_mem_append.mp unseparated
    rw [List.forall_mem_cons] at left right
    have spelled := congrArg String.toList same
    rw [toList_pathName_cons, toList_pathName_cons] at spelled
    obtain ⟨rfl, others⟩ := delimited_segment.split left.1 right.1
      (separatedSegments_begins rest) (separatedSegments_begins rest') spelled
    rw [delimited_separatedSegments.eq left.2 right.2 rfl others]
  · rintro rfl
    rfl

/-! ### Identifiers -/

/-- Whether a text may stand in an identifier behind another one: it is an identifier itself, or
a nonempty sequence of characters that may follow in one. -/
def Continues (s : String) : Prop :=
  IsIdentifier s ∨ s ≠ "" ∧ ∀ c ∈ s.toList, (Item.char c).Follows

/-- Whether a path is spelled in identifiers: its first segment is one, and the others may stand
behind it. -/
def SpellsIdentifier (path : List String) : Prop :=
  ∃ first rest, path = first :: rest ∧ IsIdentifier first ∧ ∀ s ∈ rest, Continues s

/-- What may stand behind an identifier consists of items that may follow in one. -/
theorem Continues.exists_items
    {s : String} (h : Continues s) :
  ∃ is : List Item, (∀ i ∈ is, i.Follows) ∧ s.toList = is.flatMap Item.chars
  := by
  obtain ⟨first, rest, start, follow, spelled⟩ | ⟨-, follow⟩ := h
  · exact ⟨first :: rest, List.forall_mem_cons.mpr ⟨.start start, follow⟩, spelled⟩
  · use s.toList.map Item.char
    constructor
    · simpa using follow
    · simp [List.flatMap_map, Item.chars]

theorem exists_items_separatedSegments
    {segments : List String} (h : ∀ s ∈ segments, Continues s) :
  ∃ is : List Item, (∀ i ∈ is, i.Follows) ∧ separatedSegments segments = is.flatMap Item.chars
  := by
  induction segments with
  | nil => exact ⟨[], by simp, rfl⟩
  | cons s segments ih =>
    rw [List.forall_mem_cons] at h
    obtain ⟨is, follow, spelled⟩ := h.1.exists_items
    obtain ⟨others, followOthers, spelledOthers⟩ := ih h.2
    use [.char '$', .char '_'] ++ is ++ others
    constructor
    · simp only [List.forall_mem_append]
      exact ⟨⟨by simp [Item.Follows.start .dollar, Item.Follows.start .underscore], follow⟩,
        followOthers⟩
    · rw [List.flatMap_append, List.flatMap_append, ← spelled, ← spelledOthers]
      rfl

/-- The name of a path that is spelled in identifiers is one. -/
theorem SpellsIdentifier.isIdentifier
    {path : List String} (h : SpellsIdentifier path) :
  IsIdentifier (pathName path)
  := by
  obtain ⟨name, segments, rfl, ⟨first, rest, start, follow, spelled⟩, continues⟩ := h
  obtain ⟨others, followOthers, spelledOthers⟩ := exists_items_separatedSegments continues
  use first, rest ++ others, start, List.forall_mem_append.mpr ⟨follow, followOthers⟩
  rw [toList_pathName_cons, spelled, spelledOthers, ← List.cons_append, List.flatMap_append]

/-- Paths whose segments do not hold the separator have different names; those that are spelled
in identifiers keep them when they are normalized, and so they stay different. -/
theorem pathName_unambiguous
    {p q : List String} (hp : p ≠ []) (hq : q ≠ []) (unseparated : ∀ s ∈ p ++ q, Unseparated s) :
  (pathName p = pathName q ↔ p = q) ∧
    (SpellsIdentifier p → normalizeName (pathName p) = pathName p) ∧
    (SpellsIdentifier p → SpellsIdentifier q →
      (normalizeName (pathName p) = normalizeName (pathName q) ↔ p = q))
  := by
  have told := pathName_inj hp hq unseparated
  have kept {path : List String} (h : SpellsIdentifier path) :
      normalizeName (pathName path) = pathName path := h.isIdentifier.normalizeName
  refine ⟨told, kept, ?_⟩
  intro spells spells'
  rw [kept spells, kept spells', told]

/-- A seat in a row whose name ends with a dollar sign, under a key that begins with an
underscore. -/
def seatInRow : List String := ["Row$", "_seat", "0"]

/-- A seat under a dollar sign. -/
def seatUnderDollar : List String := ["Row", "$", "seat", "0"]

theorem pathName_unambiguous_seats :
  (∀ s ∈ seatInRow ++ seatUnderDollar, Unseparated s) ∧
    SpellsIdentifier seatInRow ∧ SpellsIdentifier seatUnderDollar ∧
    pathName seatInRow ≠ pathName seatUnderDollar ∧
    normalizeName (pathName seatInRow) = "Row$$__seat$_0" ∧
    normalizeName (pathName seatInRow) ≠ normalizeName (pathName seatUnderDollar)
  := by
  have unseparated : ∀ s ∈ seatInRow ++ seatUnderDollar, Unseparated s := by
    unfold Unseparated
    decide +kernel
  have identifier {s : String} (kept : normalizeIdentifier s = s) : IsIdentifier s := by
    rw [← kept]
    exact isIdentifier_normalizeIdentifier s
  have digit : Continues "0" := by
    refine .inr ⟨by decide, ?_⟩
    simpa using follows_of_isIdentifierPart (c := '0') (by decide +kernel)
  have spells : SpellsIdentifier seatInRow := by
    refine ⟨_, _, rfl, identifier (by decide +kernel), ?_⟩
    simp only [List.forall_mem_cons, List.not_mem_nil, false_imp_iff, implies_true, and_true]
    exact ⟨.inl (identifier (by decide +kernel)), digit⟩
  have spells' : SpellsIdentifier seatUnderDollar := by
    refine ⟨_, _, rfl, identifier (by decide +kernel), ?_⟩
    simp only [List.forall_mem_cons, List.not_mem_nil, false_imp_iff, implies_true, and_true]
    exact ⟨.inl (identifier (by decide +kernel)), .inl (identifier (by decide +kernel)), digit⟩
  obtain ⟨told, kept, differ⟩ := pathName_unambiguous (by decide) (by decide) unseparated
  refine ⟨unseparated, spells, spells', ?_, ?_, ?_⟩
  · rw [Ne, told]
    decide
  · rw [kept spells]
    decide +kernel
  · rw [Ne, differ spells spells']
    decide

end ConceptModel.Text

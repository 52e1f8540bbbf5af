import ConceptModel.Proofs.Text.Normalization

/-!
# The grammar of identifiers

An identifier is a nonempty sequence of items, each an escape or a character of certain
categories.  Whatever text is normalized becomes one: `isIdentifier_normalizeIdentifier` and
`isIdentifier_normalizeName`.
-/

namespace ConceptModel.Text

/-! ### Identifiers -/

/-- The item may start an identifier: it is an escape, a dollar sign, an underscore or a
letter. -/
inductive Item.Starts : Item → Prop where
  | escape {a b c d : Char} (digits : ∀ x ∈ [a, b, c, d], isHexDigit x = true) :
      Starts (.escape a b c d)
  | dollar : Starts (.char '$')
  | underscore : Starts (.char '_')
  | letter {c : Char} (h : c.toNat ∈ identifierStarts.numbers) : Starts (.char c)

/-- The item may follow in an identifier: it may start one, or it is a zero-width joiner, a
mark, a digit or a connector. -/
inductive Item.Follows : Item → Prop where
  | start {i : Item} (h : i.Starts) : Follows i
  | joiner {c : Char} (h : c = '\u200c' ∨ c = '\u200d') : Follows (.char c)
  | extension {c : Char} (h : c.toNat ∈ identifierExtensions.numbers) : Follows (.char c)

/-- Whether a text is an identifier: an item that may start one, then items that may
follow. -/
def IsIdentifier (s : String) : Prop :=
  ∃ first rest, first.Starts ∧ (∀ i ∈ rest, i.Follows) ∧
    s.toList = (first :: rest).flatMap Item.chars

example : ¬ IsIdentifier "" := by
  rintro ⟨first, rest, start, -, spelled⟩
  cases start <;> simp [Item.chars] at spelled

/-! ### Characters -/

theorem starts_of_isIdentifierStart
    {c : Char} (h : isIdentifierStart c = true) :
  (Item.char c).Starts
  := by
  simp only [isIdentifierStart, Bool.or_eq_true, decide_eq_true_eq] at h
  obtain (rfl | rfl) | letter := h
  · exact .dollar
  · exact .underscore
  · exact .letter (CodePoints.mem_numbers letter)

theorem follows_of_isIdentifierPart
    {c : Char} (h : isIdentifierPart c = true) :
  (Item.char c).Follows
  := by
  simp only [isIdentifierPart, Bool.or_eq_true, decide_eq_true_eq] at h
  obtain ((start | joiner) | joiner) | extension := h
  · exact .start (starts_of_isIdentifierStart start)
  · exact .joiner (.inl joiner)
  · exact .joiner (.inr joiner)
  · exact .extension (CodePoints.mem_numbers extension)

/-! ### Normal forms -/

/-- Normal characters are those of items that may follow. -/
theorem Normal.follows
    {cs : List Char} (h : Normal cs) :
  (∀ i ∈ items cs, i.Follows) ∧ (items cs).flatMap Item.chars = cs
  := by
  induction h with
  | nil => simp [items]
  | escape ha hb hc hd _ ih =>
    rw [items_escape ha hb hc hd]
    constructor
    · rw [List.forall_mem_cons]
      exact ⟨.start (.escape (by simp [ha, hb, hc, hd])), ih.1⟩
    · rw [List.flatMap_cons, ih.2]
      rfl
  | char part _ ih =>
    rw [items_char (ne_backslash_of_isIdentifierPart part)]
    constructor
    · rw [List.forall_mem_cons]
      exact ⟨follows_of_isIdentifierPart part, ih.1⟩
    · rw [List.flatMap_cons, ih.2]
      rfl

theorem Item.Follows.starts
    {i : Item} (h : i.Follows) (start : i.isStart = true) :
  i.Starts
  := by
  cases i with
  | escape =>
    cases h with
    | start h => exact h
  | char c => exact starts_of_isIdentifierStart start

/-- Normal characters with an underscore in front where it is needed are an identifier. -/
theorem Normal.isIdentifier
    {cs : List Char} (h : Normal cs) :
  IsIdentifier (String.ofList (Text.guardStart cs))
  := by
  obtain ⟨follow, spelled⟩ := h.follows
  unfold IsIdentifier Text.guardStart
  rw [String.toList_ofList]
  split
  next first rest held =>
    rw [held] at follow spelled
    split
    next start =>
      use first, rest, (follow first List.mem_cons_self).starts start
      constructor
      · intro i mem
        exact follow i (List.mem_cons_of_mem first mem)
      · exact spelled.symm
    next =>
      use .char '_', first :: rest, .underscore, follow
      rw [List.flatMap_cons, spelled]
      rfl
  next =>
    use .char '_', [], .underscore
    simp [Item.chars]

/-- Normalized identifiers are identifiers. -/
theorem isIdentifier_normalizeIdentifier
    (s : String) :
  IsIdentifier (normalizeIdentifier s)
  := (normal_flatMap_normalize _).isIdentifier

/-- Normalized names are identifiers. -/
theorem isIdentifier_normalizeName
    (s : String) :
  IsIdentifier (normalizeName s)
  := (normal_flatMap_normalize _).isIdentifier

/-! ### Delimiters -/

/-- Characters that stand in no identifier. -/
def delimiters : List Char := [' ', '\n', '"', '(', ')', ',', '/', '@', '[', ']', '\x7b', '\x7d']

theorem CodePoints.notMem_numbers
    {s : CodePoints} {n : Nat} (h : ∀ range ∈ s, n < range.1 ∨ range.2 < n) :
  n ∉ s.numbers
  := by
  intro mem
  obtain ⟨range, held, inside⟩ := List.mem_flatMap.mp mem
  have := List.mem_range'_1.mp inside
  have := h range held
  omega

theorem Item.Follows.ne_of_mem_delimiters
    {i : Item} (h : i.Follows) {c d : Char} (mem : c ∈ i.chars) (delimiter : d ∈ delimiters) :
  c ≠ d
  := by
  -- a check of the lists, as a statement about all their members may be decided by going
  -- through all characters
  have outside : (delimiters.all fun d => (identifierStarts ++ identifierExtensions).all
      fun range => decide (d.toNat < range.1 ∨ range.2 < d.toNat)) = true := by
    decide +kernel
  have apart : (delimiters.all fun d => decide (d ∉ ['\\', 'u'] ∧
      d ∉ ['$', '_', '\u200c', '\u200d'] ∧ ¬ isHexDigit d = true)) = true := by
    decide +kernel
  simp only [List.all_eq_true, decide_eq_true_eq, List.forall_mem_append] at outside apart
  obtain ⟨marks, foreign, digits⟩ := apart d delimiter
  rintro rfl
  cases h with
  | start h =>
    cases h with
    | @escape w x y z hex =>
      obtain mark | digit := List.mem_append.mp (show c ∈ ['\\', 'u'] ++ [w, x, y, z] from mem)
      · exact marks mark
      · exact absurd (hex c digit) digits
    | dollar | underscore =>
      obtain rfl := List.mem_singleton.mp mem
      exact foreign (by simp)
    | letter h =>
      obtain rfl := List.mem_singleton.mp mem
      exact CodePoints.notMem_numbers (outside _ delimiter).1 h
  | joiner h =>
    obtain rfl := List.mem_singleton.mp mem
    exact foreign (by simp [h])
  | extension h =>
    obtain rfl := List.mem_singleton.mp mem
    exact CodePoints.notMem_numbers (outside _ delimiter).2 h

/-- No delimiter stands in an identifier. -/
theorem IsIdentifier.notMem
    {s : String} (h : IsIdentifier s) {d : Char} (delimiter : d ∈ delimiters) :
  d ∉ s.toList
  := by
  obtain ⟨first, rest, start, follow, spelled⟩ := h
  rw [spelled]
  intro mem
  obtain ⟨i, held, inside⟩ := List.mem_flatMap.mp mem
  have follows : i.Follows := by
    obtain rfl | later := List.mem_cons.mp held
    · exact .start start
    · exact follow i later
  exact follows.ne_of_mem_delimiters inside delimiter rfl

end ConceptModel.Text

import ConceptModel.Proofs.Text.Grammar

/-!
# Normalization as a projection

Normalizing keeps exactly the identifiers.  That what it keeps is one says the grammar; in
return, the characters of an identifier are normal, and its first item needs no underscore in
front.  For this the ranges of the characters must increase, as the search in them ends at the
first one that lies beyond.
-/

namespace ConceptModel.Text

/-! ### Characters -/

/-- The numbers of a table are those in its ranges. -/
theorem CodePoints.mem_numbers_iff
    {s : CodePoints} {n : Nat} :
  n ∈ s.numbers ↔ ∃ range ∈ s, range.1 ≤ n ∧ n ≤ range.2
  := by
  simp only [numbers, List.mem_flatMap, List.mem_range'_1]
  constructor
  · rintro ⟨range, mem, inside⟩
    exact ⟨range, mem, by omega⟩
  · rintro ⟨range, mem, inside⟩
    exact ⟨range, mem, by omega⟩

/-- A code point of increasing ranges is found in them. -/
theorem CodePoints.holds_of_mem_numbers
    {s : CodePoints} (increasing : (s.map Prod.fst).IsChain (· ≤ ·)) {n : Nat}
    (h : n ∈ s.numbers) :
  s.holds n = true
  := by
  have ordered : s.Pairwise fun range other => range.1 ≤ other.1 :=
    List.pairwise_map.mp increasing.pairwise
  obtain ⟨found, mem, inside⟩ := mem_numbers_iff.mp h
  clear h increasing
  induction s with
  | nil => simp at mem
  | cons range rest ih =>
    obtain ⟨first, ordered⟩ := List.pairwise_cons.mp ordered
    unfold holds
    obtain rfl | mem := List.mem_cons.mp mem
    · simp [inside, Nat.not_lt.mpr inside.1]
    · have := first found mem
      rw [if_neg (by omega), ih ordered mem, Bool.or_true]

theorem isIdentifierStart_of_mem_numbers
    {c : Char} (h : c.toNat ∈ identifierStarts.numbers) :
  isIdentifierStart c = true
  := by
  have held := CodePoints.holds_of_mem_numbers (by decide +kernel) h
  simp [isIdentifierStart, held]

theorem isIdentifierPart_of_mem_numbers
    {c : Char} (h : c.toNat ∈ identifierExtensions.numbers) :
  isIdentifierPart c = true
  := by
  have held := CodePoints.holds_of_mem_numbers (by decide +kernel) h
  simp [isIdentifierPart, held]

theorem isIdentifierPart_of_isIdentifierStart
    {c : Char} (h : isIdentifierStart c = true) :
  isIdentifierPart c = true
  := by
  simp [isIdentifierPart, h]

/-! ### Items -/

theorem Item.Starts.isStart
    {i : Item} (h : i.Starts) :
  i.isStart = true
  := by
  cases h with
  | escape => rfl
  | dollar | underscore => rfl
  | letter h => exact isIdentifierStart_of_mem_numbers h

/-- An item that may start a text needs no underscore in front. -/
theorem Item.Starts.guardStart
    {i : Item} (h : i.Starts) (rest : List Char) :
  Text.guardStart (i.chars ++ rest) = i.chars ++ rest
  := by
  have start := h.isStart
  unfold Text.guardStart
  cases i with
  | escape a b c d =>
    cases h with
    | escape digits =>
      simp only [List.mem_cons, List.not_mem_nil, or_false, forall_eq_or_imp, forall_eq] at digits
      obtain ⟨ha, hb, hc, hd⟩ := digits
      have first : items ((Item.escape a b c d).chars ++ rest) = .escape a b c d :: items rest :=
        items_escape ha hb hc hd rest
      simp [first, start]
  | char c =>
    have part : isIdentifierPart c = true := isIdentifierPart_of_isIdentifierStart start
    have first : items ((Item.char c).chars ++ rest) = .char c :: items rest :=
      items_char (ne_backslash_of_isIdentifierPart part) rest
    simp [first, start]

/-- The characters of an item that may follow are normal. -/
theorem Item.Follows.normal
    {i : Item} (h : i.Follows) :
  Normal i.chars
  := by
  have char {c : Char} (part : isIdentifierPart c = true) : Normal (Item.char c).chars :=
    .char part .nil
  cases h with
  | start h =>
    cases h with
    | escape digits =>
      simp only [List.mem_cons, List.not_mem_nil, or_false, forall_eq_or_imp, forall_eq] at digits
      exact .escape digits.1 digits.2.1 digits.2.2.1 digits.2.2.2 .nil
    | dollar | underscore => exact char (by decide +kernel)
    | letter h =>
      exact char (isIdentifierPart_of_isIdentifierStart (isIdentifierStart_of_mem_numbers h))
  | joiner h =>
    apply char
    obtain rfl | rfl := h <;> decide +kernel
  | extension h => exact char (isIdentifierPart_of_mem_numbers h)

theorem normal_flatMap_chars
    {is : List Item} (h : ∀ i ∈ is, i.Follows) :
  Normal (is.flatMap Item.chars)
  := by
  induction is with
  | nil => exact .nil
  | cons i rest ih =>
    obtain ⟨first, others⟩ := List.forall_mem_cons.mp h
    exact first.normal.append (ih others)

/-! ### Identifiers -/

/-- Identifiers are normal. -/
theorem IsIdentifier.normal
    {s : String} (h : IsIdentifier s) :
  Normal s.toList
  := by
  obtain ⟨first, rest, start, follow, spelled⟩ := h
  rw [spelled]
  exact normal_flatMap_chars (List.forall_mem_cons.mpr ⟨.start start, follow⟩)

/-- Normalizing keeps identifiers. -/
theorem IsIdentifier.normalizeIdentifier
    {s : String} (h : IsIdentifier s) :
  normalizeIdentifier s = s
  := by
  have guarded : guardStart s.toList = s.toList := by
    obtain ⟨first, rest, start, -, spelled⟩ := h
    rw [spelled, List.flatMap_cons]
    apply start.guardStart
  rw [Text.normalizeIdentifier, h.normal.normalizeChars, guarded, String.ofList_toList]

/-- No part of an identifier separates. -/
theorem IsIdentifier.normalizeName
    {s : String} (h : IsIdentifier s) :
  normalizeName s = s
  := by
  rw [Text.normalizeName, h.normal.flatMap_separated]
  exact h.normalizeIdentifier

/-- Normalizing yields an identifier for every text and keeps the identifiers only, so it
changes nothing when it is repeated, be it for identifiers or for names. -/
theorem normalizeIdentifier_projects
    (s : String) :
  IsIdentifier (normalizeIdentifier s) ∧
    (normalizeIdentifier s = s ↔ IsIdentifier s) ∧
    normalizeIdentifier (normalizeIdentifier s) = normalizeIdentifier s ∧
    normalizeName (normalizeName s) = normalizeName s
  := by
  have normalized := isIdentifier_normalizeIdentifier s
  refine ⟨normalized, ⟨?_, ?_⟩, normalized.normalizeIdentifier, normalizeName_normalizeName s⟩
  · intro kept
    rwa [kept] at normalized
  · exact IsIdentifier.normalizeIdentifier

/-- A text that begins as an escape does but is none is changed. -/
example : normalizeIdentifier "\\u00e" = "_5cu00e" := by decide +kernel

end ConceptModel.Text

import ConceptModel.Text.Identifier
import Mathlib.Data.List.Basic

/-!
# Normal forms of identifiers

The characters of an identifier are `Normal` when each stands in an escape or may follow in
an identifier.  What `normalizeChars` yields is normal, and begins with what may start an
identifier; such characters stay what they are, so normalizing a name twice is normalizing
it once.
-/

namespace ConceptModel.Text

/-! ### Characters -/

/-- The code points of a set. -/
def CodePoints.numbers (s : CodePoints) : List Nat :=
  s.flatMap fun (lo, hi) => List.range' lo (hi + 1 - lo)

/-- A code point that a table holds is one of its numbers. -/
theorem CodePoints.mem_numbers
    {s : CodePoints} {n : Nat} (h : s.holds n = true) :
  n ∈ s.numbers
  := by
  induction s with
  | nil => simp [holds] at h
  | cons range rest ih =>
    simp only [holds] at h
    split at h
    · simp at h
    next above =>
      simp only [numbers, List.flatMap_cons, List.mem_append, List.mem_range'_1]
      obtain inside | later : n ≤ range.2 ∨ CodePoints.holds rest n = true := by simpa using h
      · left
        omega
      · right
        exact ih later

/-- Blanks are no parts of identifiers. -/
theorem isIdentifierPart_of_isBlank
    {c : Char} (h : isBlank c = true) :
  isIdentifierPart c = false
  := by
  have all : ∀ n ∈ blanks.numbers, isIdentifierPart (Char.ofNat n) = false := by decide +kernel
  have := all c.toNat (CodePoints.mem_numbers h)
  rwa [Char.ofNat_toNat] at this

/-- Hexadecimal digits are parts of identifiers. -/
theorem isIdentifierPart_of_isHexDigit
    {c : Char} (h : isHexDigit c = true) :
  isIdentifierPart c = true
  := by
  have all : ∀ n ∈ CodePoints.numbers [(0x30, 0x39), (0x41, 0x46), (0x61, 0x66)],
      isIdentifierPart (Char.ofNat n) = true := by decide +kernel
  have mem : c.toNat ∈ CodePoints.numbers [(0x30, 0x39), (0x41, 0x46), (0x61, 0x66)] := by
    have range : (0x30 ≤ c.toNat ∧ c.toNat ≤ 0x39 ∨ 0x61 ≤ c.toNat ∧ c.toNat ≤ 0x66) ∨
        0x41 ≤ c.toNat ∧ c.toNat ≤ 0x46 := by
      simp only [isHexDigit, Bool.or_eq_true, Bool.and_eq_true, decide_eq_true_eq] at h
      exact h
    simp only [CodePoints.numbers, List.flatMap_cons, List.flatMap_nil, List.mem_append,
      List.mem_range'_1, List.not_mem_nil, or_false]
    omega
  have := all c.toNat mem
  rwa [Char.ofNat_toNat] at this

theorem mem_toDigitsCore
    {fuel n : Nat} {c : Char} {cs : List Char} (h : c ∈ Nat.toDigitsCore 16 fuel n cs) :
  c ∈ cs ∨ ∃ d < 16, c = Nat.digitChar d
  := by
  induction fuel generalizing n cs with
  | zero => exact .inl h
  | succ fuel ih =>
    have digit {c : Char} (h : c ∈ Nat.digitChar (n % 16) :: cs) :
        c ∈ cs ∨ ∃ d < 16, c = Nat.digitChar d := by
      obtain rfl | h := List.mem_cons.mp h
      · exact .inr ⟨n % 16, Nat.mod_lt n (by decide), rfl⟩
      · exact .inl h
    simp only [Nat.toDigitsCore] at h
    split at h
    · exact digit h
    · obtain h | h := ih h
      · exact digit h
      · exact .inr h

/-- Hexadecimal numerals are made of parts of identifiers. -/
theorem isIdentifierPart_of_mem_toDigits
    {n : Nat} {c : Char} (h : c ∈ Nat.toDigits 16 n) :
  isIdentifierPart c = true
  := by
  have all : ∀ d < 16, isIdentifierPart (Nat.digitChar d) = true := by decide +kernel
  obtain h | ⟨d, lt, rfl⟩ := mem_toDigitsCore h
  · simp at h
  · exact all d lt

/-- A character that may follow in an identifier is replaced by none. -/
theorem kept_of_isIdentifierPart
    {c : Char} (h : isIdentifierPart c = true) :
  underscored c = c ∧ separated c = [c]
  := by
  have foreign : ∀ d ∈ ['-', '<', '>', '/', '\x7b', '\x7d'], c ≠ d := by
    rintro d hd rfl
    -- a check of the list, as a statement about all its members may be decided by going
    -- through all characters
    have all : (['-', '<', '>', '/', '\x7b', '\x7d'].all fun d => !isIdentifierPart d) = true := by
      decide +kernel
    have := List.all_eq_true.mp all c hd
    simp [h] at this
  have solid : isBlank c = false := by
    cases blank : isBlank c with
    | false => rfl
    | true => simp [isIdentifierPart_of_isBlank blank] at h
  constructor
  · simp [underscored, solid, foreign]
  · simp [separated, foreign]

/-! ### Normal characters -/

/-- Whether each character stands in an escape or may follow in an identifier. -/
inductive Normal : List Char → Prop where
  | nil : Normal []
  | escape {a b c d : Char} {rest : List Char} (ha : isHexDigit a) (hb : isHexDigit b)
      (hc : isHexDigit c) (hd : isHexDigit d) (next : Normal rest) :
      Normal ('\\' :: 'u' :: a :: b :: c :: d :: rest)
  | char {c : Char} {rest : List Char} (part : isIdentifierPart c) (next : Normal rest) :
      Normal (c :: rest)

/-- Normal texts are normal one after the other. -/
theorem Normal.append
    {cs ds : List Char} (hc : Normal cs) (hd : Normal ds) :
  Normal (cs ++ ds)
  := by
  induction hc with
  | nil => exact hd
  | escape ha hb hc hd _ ih => exact .escape ha hb hc hd ih
  | char part _ ih => exact .char part ih

/-- A text of parts of identifiers is normal. -/
theorem normal_of_forall
    {cs : List Char} (h : ∀ c ∈ cs, isIdentifierPart c = true) :
  Normal cs
  := by
  induction cs with
  | nil => exact .nil
  | cons c rest ih =>
    apply Normal.char (h c (by simp))
    apply ih
    intro d hd
    apply h d (by simp [hd])

/-- No character of normal ones is replaced. -/
theorem Normal.kept
    {cs : List Char} (h : Normal cs) :
  ∀ c ∈ cs, underscored c = c ∧ separated c = [c]
  := by
  have slash : underscored '\\' = '\\' ∧ separated '\\' = ['\\'] := by decide +kernel
  have letter : underscored 'u' = 'u' ∧ separated 'u' = ['u'] := by decide +kernel
  induction h with
  | nil => simp
  | escape ha hb hc hd _ ih =>
    simp only [List.mem_cons, forall_eq_or_imp]
    exact ⟨slash, letter, kept_of_isIdentifierPart (isIdentifierPart_of_isHexDigit ha),
      kept_of_isIdentifierPart (isIdentifierPart_of_isHexDigit hb),
      kept_of_isIdentifierPart (isIdentifierPart_of_isHexDigit hc),
      kept_of_isIdentifierPart (isIdentifierPart_of_isHexDigit hd), ih⟩
  | char part _ ih =>
    simp only [List.mem_cons, forall_eq_or_imp]
    exact ⟨kept_of_isIdentifierPart part, ih⟩

/-! ### Items -/

/-- An escape is one item. -/
theorem items_escape
    {a b c d : Char} (ha : isHexDigit a) (hb : isHexDigit b) (hc : isHexDigit c)
    (hd : isHexDigit d) (rest : List Char) :
  items ('\\' :: 'u' :: a :: b :: c :: d :: rest) = .escape a b c d :: items rest
  := by
  simp [items, ha, hb, hc, hd]

theorem nil_of_items
    {cs : List Char} (h : items cs = []) :
  cs = []
  := by
  cases cs with
  | nil => rfl
  | cons c rest =>
    rw [items.eq_def] at h
    dsimp only at h
    split at h
    · split at h <;> simp at h
    · simp at h

/-- A character other than a backslash is one item. -/
theorem items_char
    {c : Char} (h : c ≠ '\\') (rest : List Char) :
  items (c :: rest) = .char c :: items rest
  := by
  rw [items.eq_def]
  dsimp only
  split <;> simp [h]

theorem ne_backslash_of_isIdentifierPart
    {c : Char} (h : isIdentifierPart c = true) :
  c ≠ '\\'
  := by
  rintro rfl
  exact absurd h (by decide +kernel)

/-- The items of normal characters stand for themselves. -/
theorem Normal.flatMap_normalize
    {cs : List Char} (h : Normal cs) :
  (items cs).flatMap Item.normalize = cs
  := by
  induction h with
  | nil => simp [items]
  | escape ha hb hc hd _ ih => simp [items_escape ha hb hc hd, Item.normalize, Item.chars, ih]
  | char part _ ih =>
    simp [items_char (ne_backslash_of_isIdentifierPart part), Item.normalize, part, ih]

/-- The items of any characters are written in normal ones. -/
theorem normal_flatMap_normalize
    (cs : List Char) :
  Normal ((items cs).flatMap Item.normalize)
  := by
  have char (c : Char) : Normal (Item.normalize (.char c)) := by
    unfold Item.normalize
    dsimp only
    split
    next part => exact .char part .nil
    next =>
      apply Normal.char (by decide +kernel)
      apply normal_of_forall
      intro d
      exact isIdentifierPart_of_mem_toDigits
  fun_induction items cs with
  | case1 => exact .nil
  | case2 first a b c d tail escape ih =>
    simp only [Bool.and_eq_true] at escape
    exact .escape escape.1.1.1.2 escape.1.1.2 escape.1.2 escape.2 ih
  | case3 first a b c d tail other ih => exact (char first).append ih
  | case4 first rest other ih => exact (char first).append ih

/-! ### Identifiers -/

/-- A guarded start leaves a text normal. -/
theorem Normal.guardStart
    {cs : List Char} (h : Normal cs) :
  Normal (guardStart cs)
  := by
  have underscore : isIdentifierPart '_' = true := by decide +kernel
  unfold Text.guardStart
  split
  · split
    · exact h
    · exact .char underscore h
  · exact .char underscore .nil

theorem guardStart_underscore
    (cs : List Char) :
  guardStart ('_' :: cs) = '_' :: cs
  := by
  have start : (Item.char '_').isStart = true := by decide +kernel
  simp [guardStart, items_char (c := '_') (by decide), start]

/-- A start that is guarded has an underscore before it. -/
theorem guardStart_of_ne
    {cs : List Char} (h : guardStart cs ≠ cs) :
  guardStart cs = '_' :: cs
  := by
  unfold guardStart at h ⊢
  split
  next first rest held =>
    split
    next start => simp [held, start] at h
    next => rfl
  next held => rw [nil_of_items held]

/-- A guarded start needs no guard. -/
theorem guardStart_guardStart
    (cs : List Char) :
  guardStart (guardStart cs) = guardStart cs
  := by
  by_cases kept : guardStart cs = cs
  · rw [kept, kept]
  · rw [guardStart_of_ne kept, guardStart_underscore]

/-- Normalized texts are normal. -/
theorem normal_normalizeChars
    (cs : List Char) :
  Normal (normalizeChars cs)
  := (normal_flatMap_normalize _).guardStart

/-- A normal text has no character to replace by an underscore. -/
theorem Normal.map_underscored
    {cs : List Char} (h : Normal cs) :
  cs.map underscored = cs
  :=
    calc
      cs.map underscored = cs.map id := List.map_congr_left fun c hc => (h.kept c hc).1
      _ = cs := List.map_id _

/-- Normalizing normal characters puts an underscore in front, where it is needed. -/
theorem Normal.normalizeChars
    {cs : List Char} (h : Normal cs) :
  normalizeChars cs = Text.guardStart cs
  := by rw [Text.normalizeChars, h.map_underscored, h.flatMap_normalize]

/-- Normalizing characters a second time keeps them. -/
theorem normalizeChars_normalizeChars
    (cs : List Char) :
  normalizeChars (normalizeChars cs) = normalizeChars cs
  := by
  rw [(normal_normalizeChars cs).normalizeChars]
  apply guardStart_guardStart

/-- A normal text has no character to set apart. -/
theorem Normal.flatMap_separated
    {cs : List Char} (h : Normal cs) :
  cs.flatMap separated = cs
  :=
    calc
      cs.flatMap separated = cs.flatMap ([·]) := List.flatMap_congr fun c hc => (h.kept c hc).2
      _ = cs := List.flatMap_singleton' _

/-- Normalizing a name twice is normalizing it once. -/
theorem normalizeName_normalizeName
    (s : String) :
  normalizeName (normalizeName s) = normalizeName s
  := by
  have normal : Normal (normalizeName s).toList := by
    rw [normalizeName, String.toList_ofList]
    apply normal_normalizeChars
  rw [normalizeName, normal.flatMap_separated]
  simp only [normalizeName, String.toList_ofList, normalizeChars_normalizeChars]

end ConceptModel.Text

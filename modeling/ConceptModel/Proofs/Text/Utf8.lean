import ConceptModel.Text.Percent

/-!
# UTF-8

The bytes of a character, and the decoding of bytes as the inverse of the encoding: a
sequence of bytes is decoded just when it holds the bytes of characters, one after the other,
as `decodeUtf8?_eq_some_iff` says.
-/

namespace ConceptModel.Text

/-! ### Encoding -/

/-- The bytes of a character. -/
def utf8Bytes (c : Char) : List Nat := (String.utf8EncodeChar c).map UInt8.toNat

/-- No character is a surrogate. -/
theorem toNat_lt_or_gt_of_char
    (c : Char) :
  c.toNat < 0xD800 ∨ 0xE000 ≤ c.toNat ∧ c.toNat < 0x110000
  := by
  have := c.valid
  simp only [UInt32.isValidChar, Nat.isValidChar] at this
  simp only [Char.toNat]
  omega

/-- The bytes of a character by the size of its code point. -/
theorem utf8Bytes_eq
    (c : Char) :
  utf8Bytes c =
    if c.toNat < 0x80 then [c.toNat]
    else if c.toNat < 0x800 then [0xC0 + c.toNat / 0x40, 0x80 + c.toNat % 0x40]
    else if c.toNat < 0x10000 then
      [0xE0 + c.toNat / 0x1000, 0x80 + c.toNat / 0x40 % 0x40, 0x80 + c.toNat % 0x40]
    else
      [0xF0 + c.toNat / 0x40000, 0x80 + c.toNat / 0x1000 % 0x40, 0x80 + c.toNat / 0x40 % 0x40,
        0x80 + c.toNat % 0x40]
  := by
  have valid := toNat_lt_or_gt_of_char c
  have same : c.val.toNat = c.toNat := rfl
  simp only [utf8Bytes, String.utf8EncodeChar, same]
  generalize c.toNat = n at valid
  grind [UInt8.toNat_ofNat']

/-- A character of seven bits is its own byte. -/
theorem utf8Bytes_of_lt
    {c : Char} (h : c.toNat < 0x80) :
  utf8Bytes c = [c.toNat]
  := by
  rw [utf8Bytes_eq, if_pos h]

/-- A byte of ASCII among those of a character is the character's own. -/
theorem eq_toNat_of_mem_utf8Bytes
    {c : Char} {b : Nat} (mem : b ∈ utf8Bytes c) (small : b < 0x80) :
  b = c.toNat
  := by
  rw [utf8Bytes_eq] at mem
  grind

theorem utf8Bytes_lt
    {c : Char} {b : Nat} (h : b ∈ utf8Bytes c) :
  b < 256
  := by
  obtain ⟨b, -, rfl⟩ := List.mem_map.mp h
  exact b.toNat_lt

theorem utf8Bytes_ne_nil
    (c : Char) :
  utf8Bytes c ≠ []
  := by
  simp [utf8Bytes, String.utf8EncodeChar_ne_nil]

/-! ### Decoding -/

theorem toNat_ofNat
    {n : Nat} (h : n < 0xD800 ∨ 0xE000 ≤ n ∧ n < 0x110000) :
  (Char.ofNat n).toNat = n
  := by
  have valid : n.isValidChar := by
    simp only [Nat.isValidChar]
    omega
  rw [Char.ofNat, dif_pos valid]
  rfl

theorem eq_ofNat
    {n : Nat} {c : Char} (h : n = c.toNat) :
  Char.ofNat n = c
  := by
  rw [h, Char.ofNat_toNat]

/-- Two bytes are decoded just in case a character has them. -/
theorem decodePair?_eq_some_iff
    {a b : Nat} {c : Char} :
  decodePair? a b = some c ↔ utf8Bytes c = [a, b]
  := by
  simp only [decodePair?, isContinuation, Option.ite_none_right_eq_some, Bool.and_eq_true,
    decide_eq_true_eq, Option.some.injEq]
  constructor
  · rintro ⟨fits, rfl⟩
    rw [utf8Bytes_eq, toNat_ofNat (by omega)]
    grind
  · intro h
    rw [utf8Bytes_eq] at h
    have sizes : 0x80 ≤ c.toNat ∧ c.toNat < 0x800 := by grind
    obtain ⟨rfl, rfl⟩ : 0xC0 + c.toNat / 0x40 = a ∧ 0x80 + c.toNat % 0x40 = b := by grind
    exact ⟨by omega, eq_ofNat (by omega)⟩

/-- Three bytes are decoded just in case a character has them. -/
theorem decodeTriple?_eq_some_iff
    {a b c : Nat} {ch : Char} :
  decodeTriple? a b c = some ch ↔ utf8Bytes ch = [a, b, c]
  := by
  simp only [decodeTriple?, isContinuation, Option.ite_none_right_eq_some, Bool.and_eq_true,
    Bool.not_eq_true', Bool.and_eq_false_iff, decide_eq_true_eq, decide_eq_false_iff_not,
    Option.some.injEq]
  constructor
  · rintro ⟨fits, rfl⟩
    rw [utf8Bytes_eq, toNat_ofNat (by omega)]
    grind
  · intro h
    have valid := toNat_lt_or_gt_of_char ch
    rw [utf8Bytes_eq] at h
    have sizes : 0x800 ≤ ch.toNat ∧ ch.toNat < 0x10000 := by grind
    obtain ⟨rfl, rfl, rfl⟩ : 0xE0 + ch.toNat / 0x1000 = a ∧ 0x80 + ch.toNat / 0x40 % 0x40 = b ∧
        0x80 + ch.toNat % 0x40 = c := by grind
    exact ⟨by omega, eq_ofNat (by omega)⟩

/-- Four bytes are decoded just in case a character has them. -/
theorem decodeQuadruple?_eq_some_iff
    {a b c d : Nat} {ch : Char} :
  decodeQuadruple? a b c d = some ch ↔ utf8Bytes ch = [a, b, c, d]
  := by
  simp only [decodeQuadruple?, isContinuation, Option.ite_none_right_eq_some, Bool.and_eq_true,
    decide_eq_true_eq, Option.some.injEq]
  constructor
  · rintro ⟨fits, rfl⟩
    rw [utf8Bytes_eq, toNat_ofNat (by omega)]
    grind
  · intro h
    have valid := toNat_lt_or_gt_of_char ch
    rw [utf8Bytes_eq] at h
    have sizes : 0x10000 ≤ ch.toNat := by grind
    obtain ⟨rfl, rfl, rfl, rfl⟩ : 0xF0 + ch.toNat / 0x40000 = a ∧
        0x80 + ch.toNat / 0x1000 % 0x40 = b ∧ 0x80 + ch.toNat / 0x40 % 0x40 = c ∧
        0x80 + ch.toNat % 0x40 = d := by grind
    exact ⟨by omega, eq_ofNat (by omega)⟩

/-- The bytes of a character come off as this character. -/
theorem decodeUtf8?_bytes_append
    (c : Char) (rest : List Nat) :
  decodeUtf8? (utf8Bytes c ++ rest) = (decodeUtf8? rest).map (c :: ·)
  := by
  have bytes := utf8Bytes_eq c
  split at bytes
  next small =>
    rw [bytes, List.singleton_append, decodeUtf8?.eq_def]
    simp only [small, if_true, Char.ofNat_toNat]
  next =>
    split at bytes
    next =>
      have pair := decodePair?_eq_some_iff.mpr bytes
      rw [bytes, List.cons_append, List.cons_append, decodeUtf8?.eq_def]
      simp only [pair]
      rw [if_neg (by omega)]
      rfl
    next =>
      split at bytes
      next =>
        have pair :
            decodePair? (0xE0 + c.toNat / 0x1000) (0x80 + c.toNat / 0x40 % 0x40) = none := by
          grind [decodePair?]
        have triple := decodeTriple?_eq_some_iff.mpr bytes
        rw [bytes, List.cons_append, List.cons_append, List.cons_append, decodeUtf8?.eq_def]
        simp only [pair, triple]
        rw [if_neg (by omega)]
        rfl
      next =>
        have pair : decodePair? (0xF0 + c.toNat / 0x40000) (0x80 + c.toNat / 0x1000 % 0x40) =
            none := by
          grind [decodePair?]
        have triple : decodeTriple? (0xF0 + c.toNat / 0x40000) (0x80 + c.toNat / 0x1000 % 0x40)
            (0x80 + c.toNat / 0x40 % 0x40) = none := by
          grind [decodeTriple?]
        have quadruple := decodeQuadruple?_eq_some_iff.mpr bytes
        rw [bytes, List.cons_append, List.cons_append, List.cons_append, List.cons_append,
          decodeUtf8?.eq_def]
        simp only [pair, triple, quadruple]
        rw [if_neg (by omega)]
        rfl

/-- Bytes are decoded just when they are those of characters, one after the other. -/
theorem decodeUtf8?_eq_some_iff
    {bytes : List Nat} {cs : List Char} :
  decodeUtf8? bytes = some cs ↔ bytes = cs.flatMap utf8Bytes
  := by
  constructor
  · intro h
    fun_induction decodeUtf8? bytes generalizing cs with
    | case1 =>
      obtain rfl := by simpa using h
      rfl
    | case2 a rest small ih =>
      obtain ⟨cs, held, rfl⟩ := Option.map_eq_some_iff.mp h
      rw [List.flatMap_cons, ← ih held, utf8Bytes_eq, toNat_ofNat (by omega), if_pos small]
      rfl
    | case3 a _ b rest c pair ih =>
      obtain ⟨cs, held, rfl⟩ := Option.map_eq_some_iff.mp h
      rw [List.flatMap_cons, ← ih held, decodePair?_eq_some_iff.mp pair]
      rfl
    | case4 a _ b _ c rest ch triple ih =>
      obtain ⟨cs, held, rfl⟩ := Option.map_eq_some_iff.mp h
      rw [List.flatMap_cons, ← ih held, decodeTriple?_eq_some_iff.mp triple]
      rfl
    | case5 a _ b _ c _ d rest ch quadruple ih =>
      obtain ⟨cs, held, rfl⟩ := Option.map_eq_some_iff.mp h
      rw [List.flatMap_cons, ← ih held, decodeQuadruple?_eq_some_iff.mp quadruple]
      rfl
    | _ => simp at h
  · rintro rfl
    induction cs with
    | nil => rfl
    | cons c cs ih => simp [decodeUtf8?_bytes_append, ih]

end ConceptModel.Text

import ConceptModel.Json.Token
import ConceptModel.Json.Writer
import ConceptModel.Proofs.Text.Delimited
import ConceptModel.Proofs.Text.Utf8

/-!
# Quoted strings

The reader of JSON texts reads back what the writer writes of a string, whatever comes
after its closing quote: `scanString?_quoted`.  So strings in quotes are delimited, and as
no line break stands in them unescaped, they never leave their line.
-/

namespace ConceptModel.Text

/-! ### Digits -/

theorem hexValue_digitChar
    {n : Nat} (h : n < 16) :
  hexValue (Nat.digitChar n) = n ∧ isHexDigit (Nat.digitChar n) = true
  := by
  have all : ∀ d < 16, hexValue (Nat.digitChar d) = d ∧ isHexDigit (Nat.digitChar d) = true := by
    decide
  exact all n h

theorem isHexDigit_of_mem_toDigits
    {n : Nat} {c : Char} (h : c ∈ Nat.toDigits 16 n) :
  isHexDigit c = true
  := by
  induction n using Nat.strongRecOn with
  | ind n ih =>
    rw [Nat.toDigits_eq_if (by decide)] at h
    split at h
    next small =>
      obtain rfl := List.mem_singleton.mp h
      exact (hexValue_digitChar small).2
    next large =>
      obtain front | last := List.mem_append.mp h
      · exact ih (n / 16) (by omega) front
      · obtain rfl := List.mem_singleton.mp last
        exact (hexValue_digitChar (Nat.mod_lt n (by decide))).2

theorem isHexDigit_of_mem_hexDigits
    {width n : Nat} {c : Char} (h : c ∈ hexDigits width n) :
  isHexDigit c = true
  := by
  obtain zero | digit := List.mem_append.mp h
  · obtain ⟨-, rfl⟩ := List.mem_replicate.mp zero
    decide
  · exact isHexDigit_of_mem_toDigits digit

/-- Hexadecimal digits of a number are read as the number. -/
theorem numeral_toDigits
    (n : Nat) :
  numeral 16 (Nat.toDigits 16 n) = n
  := by
  induction n using Nat.strongRecOn with
  | ind n ih =>
    rw [Nat.toDigits_eq_if (by decide)]
    split
    next small => simp [numeral, hexValue_digitChar small]
    next large =>
      have shorter := ih (n / 16) (by omega)
      simp only [numeral] at shorter ⊢
      rw [List.foldl_append, shorter, List.foldl_cons, List.foldl_nil,
        (hexValue_digitChar (Nat.mod_lt n (by decide))).1]
      exact Nat.div_add_mod n 16

/-- Zeros before a numeral count nothing. -/
theorem numeral_zeros
    (count : Nat) :
  numeral 16 (List.replicate count '0') = 0
  := by
  induction count with
  | zero => rfl
  | succ count ih => exact ih

/-- Digits of any width are worth the number they write. -/
theorem numeral_hexDigits
    (width n : Nat) :
  numeral 16 (hexDigits width n) = n
  := by
  have digits := numeral_toDigits n
  have padding := numeral_zeros (width - (Nat.toDigits 16 n).length)
  simp only [numeral] at digits padding ⊢
  rw [hexDigits, List.foldl_append, padding, digits]

theorem length_hexDigits
    {n : Nat} (h : n < 0x10000) :
  (hexDigits 4 n).length = 4
  := by
  have short := (Nat.length_toDigits_le_iff (b := 16) (k := 4) (by decide) (by decide)).mpr h
  rw [hexDigits, List.length_append, List.length_replicate]
  omega

end ConceptModel.Text

namespace ConceptModel.Json

open Text

/-! ### Surrogates -/

/-- Surrogates are the characters of one block. -/
theorem isSurrogate_iff
    {c : Char} :
  isSurrogate c = true ↔ 0x5D800 ≤ c.toNat ∧ c.toNat < 0x5E000
  := by
  simp only [isSurrogate, isHighSurrogate, isLowSurrogate, Bool.or_eq_true, Bool.and_eq_true,
    decide_eq_true_eq]
  omega

/-- High surrogates are told by their code points. -/
theorem isHighSurrogate_iff
    {c : Char} :
  isHighSurrogate c = true ↔ 0xD800 ≤ codePoint c ∧ codePoint c < 0xDC00
  := by
  have valid := toNat_lt_or_gt_of_char c
  simp only [codePoint, isSurrogate_iff, isHighSurrogate, Bool.and_eq_true, decide_eq_true_eq]
  split <;> omega

/-- Low surrogates are told by their code points. -/
theorem isLowSurrogate_iff
    {c : Char} :
  isLowSurrogate c = true ↔ 0xDC00 ≤ codePoint c ∧ codePoint c < 0xE000
  := by
  have valid := toNat_lt_or_gt_of_char c
  simp only [codePoint, isSurrogate_iff, isLowSurrogate, Bool.and_eq_true, decide_eq_true_eq]
  split <;> omega

theorem codePoint_lt (c : Char) :
  codePoint c < 0x110000
  := by
  have valid := toNat_lt_or_gt_of_char c
  unfold codePoint
  split <;> omega

/-- A code point tells the character, or the surrogate, to which it belongs. -/
theorem unitChar_codePoint (c : Char) :
  unitChar (codePoint c) = c
  := by
  have valid := toNat_lt_or_gt_of_char c
  unfold codePoint
  split
  next held =>
    rw [isSurrogate_iff] at held
    rw [unitChar, if_pos (by simp; omega), surrogate, Nat.sub_add_cancel (by omega),
      Char.ofNat_toNat]
  next => rw [unitChar, if_neg (by simp; omega), Char.ofNat_toNat]

/-- Beyond the first plane a character is never taken for a surrogate. -/
theorem toNat_eq_codePoint
    {c : Char} (h : 0x10000 ≤ codePoint c) :
  c.toNat = codePoint c
  := by
  unfold codePoint at h ⊢
  split
  next held =>
    rw [if_pos held] at h
    rw [isSurrogate_iff] at held
    omega
  next => rfl

/-- A surrogate needs no escape to stand in quotes, and breaks no line. -/
theorem plain_of_isHighSurrogate
    {c : Char} (h : isHighSurrogate c = true) :
  c ≠ '"' ∧ c ≠ '\\' ∧ ¬ c < ' ' ∧ c ≠ '\n'
  := by
  simp only [isHighSurrogate, Bool.and_eq_true, decide_eq_true_eq] at h
  have apart {d : Char} (small : d.toNat < 0x5D800) : c ≠ d := by
    rintro rfl
    omega
  refine ⟨apart (by decide), apart (by decide), ?_, apart (by decide)⟩
  rw [Char.lt_def, UInt32.lt_iff_toNat_lt]
  change ¬ c.toNat < 0x20
  omega

/-! ### Characters -/

/-- Four digits that write a code unit. -/
theorem exists_hexDigits
    {unit : Nat} (h : unit < 0x10000) :
  ∃ a b c d, hexDigits 4 unit = [a, b, c, d] ∧ codeUnit? a b c d = some unit
  := by
  obtain ⟨a, b, c, d, digits⟩ := List.length_eq_four.mp (length_hexDigits h)
  use a, b, c, d, digits
  have hex : ∀ x ∈ [a, b, c, d], isHexDigit x = true := by
    intro x mem
    rw [← digits] at mem
    exact isHexDigit_of_mem_hexDigits mem
  have value := numeral_hexDigits 4 unit
  rw [digits] at value
  simp only [List.forall_mem_cons] at hex
  simp [codeUnit?, hex, value]

/-- What the reader makes of a character before the rest. -/
def prepend (c : Char) : List Char × List Char → List Char × List Char
  | (cs, after) => (c :: cs, after)

/-- A short escape is read as the character that it stands for. -/
theorem scanString?_simpleEscape
    {e c : Char} (h : simpleEscape? e = some c) (fuel : Nat) (rest : List Char) :
  scanString? (fuel + 1) ('\\' :: e :: rest) = (scanString? fuel rest).map (prepend c)
  := by
  have other : e ≠ 'u' := by
    rintro rfl
    simp [simpleEscape?] at h
  rw [scanString?]
  · rw [h]
    rfl
  · intros
    simp_all

/-- Characters that begin with the escape of the second surrogate of a pair. -/
inductive BeginsLow : List Char → Prop
  | mk {a b c d : Char} {low : Nat} (rest : List Char) (h : codeUnit? a b c d = some low)
      (least : 0xDC00 ≤ low) (most : low < 0xE000) :
    BeginsLow ('\\' :: 'u' :: a :: b :: c :: d :: rest)

/-- Only a high surrogate before a low one makes a pair. -/
theorem surrogatePair?_eq_some
    {high low : Nat} {ch : Char} (h : surrogatePair? high low = some ch) :
  (0xD800 ≤ high ∧ high < 0xDC00) ∧ 0xDC00 ≤ low ∧ low < 0xE000
  := by
  unfold surrogatePair? at h
  split at h
  next both =>
    simp only [Bool.and_eq_true, decide_eq_true_eq] at both
    omega
  next => nomatch h

/-- A unit is read by itself, unless it comes first in a pair. -/
theorem scanString?_unit
    {a b c d : Char} {unit : Nat} (h : codeUnit? a b c d = some unit) {rest : List Char}
    (alone : 0xD800 ≤ unit ∧ unit < 0xDC00 → ¬ BeginsLow rest) (fuel : Nat) :
  scanString? (fuel + 1) ('\\' :: 'u' :: a :: b :: c :: d :: rest)
    = (scanString? fuel rest).map (prepend (unitChar unit))
  := by
  rw [scanString?, h]
  dsimp only
  split
  next paired =>
    exfalso
    split at paired
    next tail =>
      obtain ⟨low, isLow, pair⟩ := Option.bind_eq_some_iff.mp paired
      obtain ⟨ch, pair, -⟩ := Option.map_eq_some_iff.mp pair
      obtain ⟨isHigh, least, most⟩ := surrogatePair?_eq_some pair
      exact alone isHigh (.mk tail isLow least most)
    next => nomatch paired
  next => rfl

/-- Two units that make a pair are read as one character. -/
theorem scanString?_pair
    {a b c d a' b' c' d' ch : Char} {high low : Nat} (h : codeUnit? a b c d = some high)
    (h' : codeUnit? a' b' c' d' = some low) (pair : surrogatePair? high low = some ch)
    (fuel : Nat) (rest : List Char) :
  scanString? (fuel + 1)
      ('\\' :: 'u' :: a :: b :: c :: d :: '\\' :: 'u' :: a' :: b' :: c' :: d' :: rest)
    = (scanString? fuel rest).map (prepend ch)
  := by
  rw [scanString?, h]
  simp only [h', Option.bind_some, pair, Option.map_some]
  rfl

/-- A character that needs no escape is read as it stands. -/
theorem scanString?_solid
    {c : Char} (quotation : c ≠ '"') (backslash : c ≠ '\\') (printable : ¬ c < ' ')
    (fuel : Nat) (rest : List Char) :
  scanString? (fuel + 1) (c :: rest) = (scanString? fuel rest).map (prepend c)
  := by
  rw [scanString?]
  · simp [backslash, printable]
    rfl
  · simp [quotation]
  · simp [backslash]
  · simp [backslash]

/-- The reader reads the escape of a character as this character. -/
theorem scanString?_charEscape
    {c : Char} {rest : List Char} (alone : isHighSurrogate c = true → ¬ BeginsLow rest)
    (fuel : Nat) :
  scanString? (fuel + 1) (charEscape c ++ rest) = (scanString? fuel rest).map (prepend c)
  := by
  have bound := codePoint_lt c
  unfold charEscape
  split
  next basic =>
    obtain ⟨x, y, z, w, digits, unit⟩ := exists_hexDigits basic
    rw [unitEscape, digits]
    have read := scanString?_unit unit (fun high => alone (isHighSurrogate_iff.mpr high)) fuel
    rwa [unitChar_codePoint] at read
  next astral =>
    have high : 0xD800 + (codePoint c - 0x10000) / 0x400 < 0x10000 := by omega
    have low : 0xDC00 + (codePoint c - 0x10000) % 0x400 < 0x10000 := by omega
    obtain ⟨x, y, z, w, digits, unit⟩ := exists_hexDigits high
    obtain ⟨x', y', z', w', digits', unit'⟩ := exists_hexDigits low
    have pair : surrogatePair? (0xD800 + (codePoint c - 0x10000) / 0x400)
        (0xDC00 + (codePoint c - 0x10000) % 0x400) = some c := by
      have sum : 0x10000 + (0xD800 + (codePoint c - 0x10000) / 0x400 - 0xD800) * 0x400
          + (0xDC00 + (codePoint c - 0x10000) % 0x400 - 0xDC00) = codePoint c := by omega
      rw [surrogatePair?, if_pos (by simp; omega), sum, ← toNat_eq_codePoint (by omega),
        Char.ofNat_toNat]
    rw [unitEscape, unitEscape, digits, digits']
    exact scanString?_pair unit unit' pair fuel rest

/-- The reader reads a character inside quotes as this character. -/
theorem scanString?_writeChar
    (ascii : Bool) {c : Char} {rest : List Char}
    (alone : isHighSurrogate c = true → ¬ BeginsLow rest) (fuel : Nat) :
  scanString? (fuel + 1) (writeChar ascii c ++ rest)
    = (scanString? fuel rest).map (prepend c)
  := by
  have simple {e : Char} (h : simpleEscape? e = some c) := scanString?_simpleEscape h fuel rest
  unfold writeChar
  split_ifs with quotation backslash lineFeed carriage tab backspace formFeed escaped
  · exact simple (by rw [quotation]; rfl)
  · exact simple (by rw [backslash]; rfl)
  · exact simple (by rw [lineFeed]; rfl)
  · exact simple (by rw [carriage]; rfl)
  · exact simple (by rw [tab]; rfl)
  · exact simple (by rw [backspace]; rfl)
  · exact simple (by rw [formFeed]; rfl)
  · exact scanString?_charEscape alone fuel
  · have printable : ¬ c < ' ' := fun h => escaped (by simp [h])
    exact scanString?_solid quotation backslash printable fuel rest

/-- An escape begins as that of a second surrogate does only if it is one. -/
theorem not_beginsLow_charEscape
    {c : Char} (h : ¬ isLowSurrogate c = true) (rest : List Char) :
  ¬ BeginsLow (charEscape c ++ rest)
  := by
  have bound := codePoint_lt c
  -- The first unit decides.
  have first {unit : Nat} (small : unit < 0x10000) (apart : ¬ (0xDC00 ≤ unit ∧ unit < 0xE000))
      (rest : List Char) : ¬ BeginsLow (unitEscape unit ++ rest) := by
    obtain ⟨x, y, z, w, digits, isUnit⟩ := exists_hexDigits small
    rw [unitEscape, digits]
    rintro ⟨_, isLow, least, most⟩
    obtain rfl := Option.some.inj (isUnit.symm.trans isLow)
    exact apart ⟨least, most⟩
  unfold charEscape
  split
  next basic => exact first basic (mt isLowSurrogate_iff.mpr h) rest
  next astral =>
    rw [List.append_assoc]
    exact first (by omega) (by omega) _

/-- What is written for a character looks like no low surrogate unless it is one. -/
theorem not_beginsLow_writeChar
    (ascii : Bool) {c : Char} (h : ¬ isLowSurrogate c = true) (rest : List Char) :
  ¬ BeginsLow (writeChar ascii c ++ rest)
  := by
  unfold writeChar
  split_ifs with _ backslash
  iterate 7 · rintro ⟨⟩
  · exact not_beginsLow_charEscape h rest
  · intro begins
    generalize held : [c] ++ rest = cs at begins
    cases begins
    exact backslash (List.cons.inj held).1

/-! ### Strings -/

/-- What is written for a text looks like no low surrogate unless the text begins with one. -/
theorem not_beginsLow_writeChars
    (ascii : Bool) {cs : List Char} (h : ¬ cs.head?.any isLowSurrogate = true)
    (rest : List Char) :
  ¬ BeginsLow (writeChars ascii cs ++ '"' :: rest)
  := by
  cases cs with
  | nil => rintro ⟨⟩
  | cons c cs =>
    rw [writeChars]
    split
    next pair =>
      intro begins
      generalize held : c :: writeChars ascii cs ++ '"' :: rest = ds at begins
      cases begins
      exact (plain_of_isHighSurrogate (Bool.and_eq_true_iff.mp pair).1).2.1 (List.cons.inj held).1
    next =>
      rw [List.append_assoc]
      exact not_beginsLow_writeChar ascii h _

/-- The reader reads back a string in quotes, whatever comes after it. -/
theorem scanString?_quoted
    (ascii : Bool) (cs rest : List Char) {fuel : Nat} (h : cs.length < fuel) :
  scanString? fuel (writeChars ascii cs ++ '"' :: rest) = some (cs, rest)
  := by
  induction cs generalizing fuel with
  | nil =>
    obtain ⟨fuel, rfl⟩ := Nat.exists_eq_succ_of_ne_zero (by omega : fuel ≠ 0)
    rfl
  | cons c cs ih =>
    obtain ⟨fuel, rfl⟩ := Nat.exists_eq_succ_of_ne_zero (by omega : fuel ≠ 0)
    rw [List.length_cons] at h
    rw [writeChars]
    split
    next pair =>
      obtain ⟨quotation, backslash, printable, -⟩ :=
        plain_of_isHighSurrogate (Bool.and_eq_true_iff.mp pair).1
      rw [List.cons_append, scanString?_solid quotation backslash printable, ih (by omega)]
      rfl
    next apart =>
      have alone (high : isHighSurrogate c = true) :
          ¬ BeginsLow (writeChars ascii cs ++ '"' :: rest) := by
        apply not_beginsLow_writeChars
        simpa [high] using apart
      rw [List.append_assoc, scanString?_writeChar ascii alone, ih (by omega)]
      rfl

/-- A quoted text is the written text between quotation marks. -/
theorem toList_quote
    (ascii : Bool) (s : String) (rest : List Char) :
  (quote ascii s).toList ++ rest = '"' :: (writeChars ascii s.toList ++ '"' :: rest)
  := by simp [quote]

/-- Strings in quotes are told apart from whatever comes after them. -/
theorem delimited_quote (ascii : Bool) :
  Text.Delimited (fun s => (quote ascii s).toList) (fun _ => True) (fun _ => True)
  := by
  constructor
  intro s t r r' _ _ _ _ same
  simp only [toList_quote, List.cons.injEq, true_and] at same
  have first := scanString?_quoted ascii s.toList r
    (show s.toList.length < s.toList.length + t.toList.length + 1 by omega)
  have second := scanString?_quoted ascii t.toList r'
    (show t.toList.length < s.toList.length + t.toList.length + 1 by omega)
  rw [same, second] at first
  simpa [String.toList_inj, eq_comm] using first

/-! ### Line breaks -/

theorem ne_of_mem_hexDigits
    {width n : Nat} {c : Char} (h : c ∈ hexDigits width n) :
  c ≠ '\n'
  := by
  rintro rfl
  exact absurd (isHexDigit_of_mem_hexDigits h) (by decide)

theorem lineBreak_notMem_writeChar (ascii : Bool) (c : Char) :
  '\n' ∉ writeChar ascii c
  := by
  have unit (n : Nat) : '\n' ∉ unitEscape n := by
    intro mem
    simp only [unitEscape, List.mem_cons] at mem
    obtain h | h | h := mem
    · exact absurd h (by decide)
    · exact absurd h (by decide)
    · exact ne_of_mem_hexDigits h rfl
  have escape : '\n' ∉ charEscape c := by
    unfold charEscape
    split
    · apply unit
    · rw [List.mem_append, not_or]
      exact ⟨unit _, unit _⟩
  unfold writeChar
  split_ifs with _ _ lineFeed
  case neg => simpa [eq_comm] using lineFeed
  all_goals first | exact escape | decide

/-- A written text stands on one line. -/
theorem lineBreak_notMem_writeChars (ascii : Bool) (cs : List Char) :
  '\n' ∉ writeChars ascii cs
  := by
  induction cs with
  | nil => simp [writeChars]
  | cons c cs ih =>
    rw [writeChars]
    split
    next pair =>
      have keeps := (plain_of_isHighSurrogate (Bool.and_eq_true_iff.mp pair).1).2.2.2
      simp [ih, keeps.symm]
    next => simp [ih, lineBreak_notMem_writeChar]

/-- No line break stands in a string in quotes. -/
theorem lineBreak_notMem_quote (ascii : Bool) (s : String) :
  '\n' ∉ (quote ascii s).toList
  := by simp [quote, lineBreak_notMem_writeChars]

end ConceptModel.Json

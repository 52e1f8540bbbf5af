import ConceptModel.Reference
import ConceptModel.Proofs.Text.Percent
import ConceptModel.Proofs.Text.Split

/-!
# Encoded references

A key of a definition may be written into a reference with its characters escaped as in a
URI.  Such a reference points to the key again, unless the key is empty, holds a slash, or
looks like an escaped comma itself: `segments?_encodeUri_iff`.
-/

namespace ConceptModel

namespace Text

/-! ### Encoding -/

/-- The characters that stand for themselves in a URI: letters, digits, marks, and those with
a meaning. -/
def isUriCharacter (c : Char) : Bool :=
  c.isAlphanum || "-_.!~*\x27();/?:@&=+$,#".toList.contains c

/-- The digit in upper case that writes a number below sixteen. -/
def upperHexDigit (n : Nat) : Char := (Nat.digitChar n).toUpper

/-- The escape of a byte. -/
def escapeOf (b : Nat) : Escape := ⟨upperHexDigit (b / 16), upperHexDigit (b % 16)⟩

/-- A text with every other character written as the escapes of its bytes. -/
def encodeUri (cs : List Char) : List Char :=
  cs.flatMap fun c =>
    if isUriCharacter c then [c] else ((utf8Bytes c).map escapeOf).flatMap Escape.chars

example : encodeUri "Bar<é>,100%".toList = "Bar%3C%C3%A9%3E,100%25".toList := by decide +kernel

theorem hexValue_upperHexDigit
    {n : Nat} (h : n < 16) :
  hexValue (upperHexDigit n) = n ∧ isHexDigit (upperHexDigit n) = true
  := by
  have all : ∀ d < 16, hexValue (upperHexDigit d) = d ∧ isHexDigit (upperHexDigit d) = true := by
    decide
  exact all n h

theorem byte_escapeOf
    {b : Nat} (h : b < 256) :
  (escapeOf b).byte = b
  := by
  have high := (hexValue_upperHexDigit (show b / 16 < 16 by omega)).1
  have low := (hexValue_upperHexDigit (show b % 16 < 16 by omega)).1
  simp only [escapeOf, Escape.byte, high, low]
  omega

/-- The escape of a byte is hexadecimal. -/
theorem isHex_escapeOf
    {b : Nat} (h : b < 256) :
  (escapeOf b).IsHex
  := ⟨(hexValue_upperHexDigit (by omega)).2, (hexValue_upperHexDigit (by omega)).2⟩

theorem isUriCharacter_of_mem_uriReserved
    {c : Char} (h : c ∈ uriReserved) :
  isUriCharacter c = true
  := by
  have all : uriReserved.all isUriCharacter = true := by decide +kernel
  exact List.all_eq_true.mp all c h

theorem escape?_eq_none_of_ne
    {c : Char} {rest : List Char} (h : c ≠ '%') :
  escape? (c :: rest) = none
  := by
  unfold escape?
  split
  next same => exact absurd (List.cons.inj same).1 h
  next => rfl

/-- What is encoded is decoded to itself. -/
theorem decodes_encodeUri
    (cs : List Char) :
  Decodes (encodeUri cs) cs
  := by
  induction cs with
  | nil => exact .nil
  | cons c cs ih =>
    rw [encodeUri, List.flatMap_cons]
    split
    next stays =>
      have other : c ≠ '%' := by
        rintro rfl
        exact absurd stays (by decide +kernel)
      exact .literal (escape?_eq_none_of_ne other) ih
    next escaped =>
      apply Decodes.character _ _ _ ih
      · simp only [List.forall_mem_map]
        exact fun b mem => isHex_escapeOf (utf8Bytes_lt mem)
      · rw [List.map_map, List.map_congr_left fun b mem => ?_, List.map_id']
        exact byte_escapeOf (utf8Bytes_lt mem)
      · exact fun reserved => escaped (isUriCharacter_of_mem_uriReserved reserved)

/-! ### Slashes -/

/-- An escape holds no slash. -/
theorem slash_notMem_chars
    {e : Escape} (h : e.IsHex) :
  '/' ∉ e.chars
  := by
  obtain ⟨high, low⟩ := h
  simp only [Escape.chars, List.mem_cons, List.not_mem_nil, or_false, not_or]
  refine ⟨by decide, ?_, ?_⟩
  · rintro same
    exact absurd (same ▸ high) (by decide)
  · rintro same
    exact absurd (same ▸ low) (by decide)

/-- No slash comes into a text by decoding it. -/
theorem slash_notMem_of_decodes
    {cs out : List Char} (h : Decodes cs out) (free : '/' ∉ cs) :
  '/' ∉ out
  := by
  induction h with
  | nil => exact free
  | literal _ _ ih =>
    obtain ⟨other, free⟩ := not_or.mp (List.mem_cons.not.mp free)
    exact List.not_mem_cons_of_ne_of_not_mem other (ih free)
  | kept hex _ _ ih =>
    rw [List.mem_append, not_or] at free ⊢
    exact ⟨free.1, ih free.2⟩
  | @character es c _ _ hex _ unreserved _ ih =>
    have other : '/' ≠ c := by
      rintro rfl
      exact absurd unreserved (by decide)
    exact List.not_mem_cons_of_ne_of_not_mem other
      (ih fun mem => free (List.mem_append_right _ mem))

/-- A slash in an encoded text stands in the text. -/
theorem slash_mem_of_encodeUri
    {cs : List Char} (h : '/' ∈ encodeUri cs) :
  '/' ∈ cs
  := by
  obtain ⟨c, mem, h⟩ := List.mem_flatMap.mp h
  split at h
  next => exact List.mem_singleton.mp h ▸ mem
  next =>
    obtain ⟨e, isEscape, slash⟩ := List.mem_flatMap.mp h
    obtain ⟨b, byte, rfl⟩ := List.mem_map.mp isEscape
    exact absurd slash (slash_notMem_chars (isHex_escapeOf (utf8Bytes_lt byte)))

/-- Only the empty text is encoded as nothing. -/
theorem encodeUri_eq_nil_iff
    {cs : List Char} :
  encodeUri cs = [] ↔ cs = []
  := by
  constructor
  · intro h
    have decodes := decodeUri?_eq_some_iff.mpr (decodes_encodeUri cs)
    have empty : decodeUri? [] = some [] := by
      simp [decodeUri?, decodeAfter?, decodeRun?, decodeUtf8?]
    rw [h, empty, Option.some.injEq] at decodes
    exact decodes.symm
  · rintro rfl
    rfl

end Text

namespace Reference

open Text

/-! ### Commas -/

theorem slash_notMem_unescapeCommas
    {cs : List Char} (h : '/' ∉ cs) :
  '/' ∉ unescapeCommas cs
  := by
  fun_induction unescapeCommas cs with
  | case1 rest ih => simp_all
  | case2 rest ih => simp_all
  | case3 c rest _ _ ih => simp_all
  | case4 => exact h

/-- A text stays as it is when no escaped comma stands in it. -/
theorem unescapeCommas_eq_self_iff
    {cs : List Char} :
  unescapeCommas cs = cs ↔ ¬ "%2C".toList <:+: cs ∧ ¬ "%2c".toList <:+: cs
  := by
  fun_induction unescapeCommas cs with
  | case1 rest =>
    have escaped : "%2C".toList <:+: '%' :: '2' :: 'C' :: rest := ⟨[], rest, rfl⟩
    exact iff_of_false (by simp) fun free => free.1 escaped
  | case2 rest =>
    have escaped : "%2c".toList <:+: '%' :: '2' :: 'c' :: rest := ⟨[], rest, rfl⟩
    exact iff_of_false (by simp) fun free => free.2 escaped
  | case3 c rest upper lower ih =>
    have upper : ¬ "%2C".toList <+: c :: rest := by
      rintro ⟨after, same⟩
      obtain ⟨rfl, rfl⟩ := List.cons.inj same
      exact upper after rfl rfl
    have lower : ¬ "%2c".toList <+: c :: rest := by
      rintro ⟨after, same⟩
      obtain ⟨rfl, rfl⟩ := List.cons.inj same
      exact lower after rfl rfl
    rw [List.infix_cons_iff, List.infix_cons_iff, List.cons.injEq, ih]
    simp only [upper, lower, false_or, true_and]
  | case4 => decide

/-! ### Keys -/

/-- An encoded segment is read back, up to its commas. -/
theorem segment?_encodeUri
    (cs : List Char) :
  segment? (encodeUri cs) = some (String.ofList (unescapeCommas cs))
  := by
  rw [segment?, decodeUri?_eq_some_iff.mpr (decodes_encodeUri cs), Option.map_some]

/-- The key that a part without slashes stands for holds no slash. -/
theorem slash_notMem_of_segment?
    {part : List Char} {key : String} (free : '/' ∉ part) (h : segment? part = some key) :
  '/' ∉ key.toList
  := by
  obtain ⟨decoded, held, rfl⟩ := Option.map_eq_some_iff.mp h
  rw [String.toList_ofList]
  exact slash_notMem_unescapeCommas (slash_notMem_of_decodes (decodeUri?_eq_some_iff.mp held) free)

/-- The segments of a reference to a definition by the text after the container. -/
theorem segments?_definitions
    (cs : List Char) :
  segments? ("#/definitions/" ++ String.ofList cs) =
    (((splitAll '/' cs).filter (!·.isEmpty)).mapM segment?).map ("definitions" :: ·)
  := by
  have parts : splitAll '/' (("#/definitions/" ++ String.ofList cs).toList.drop 1) =
      [] :: "definitions".toList :: splitAll '/' cs := by
    have text : ("#/definitions/" ++ String.ofList cs).toList.drop 1 =
        [] ++ '/' :: ("definitions".toList ++ '/' :: cs) := by simp
    rw [text, splitAll_append_cons (by simp), splitAll_append_cons (by decide)]
  have container : segment? "definitions".toList = some "definitions" := by decide +kernel
  rw [segments?, parts, List.filter_cons_of_neg (by simp), List.filter_cons_of_pos (by simp),
    List.mapM_cons, container]
  cases ((splitAll '/' cs).filter (!·.isEmpty)).mapM segment? <;> rfl

/-- An encoded key is pointed to just when it is not empty, holds no slash, and does not look
like an escaped comma anywhere. -/
theorem segments?_encodeUri_iff
    (key : String) :
  segments? ("#/definitions/" ++ String.ofList (encodeUri key.toList)) =
      some ["definitions", key] ↔
    key ≠ "" ∧ '/' ∉ key.toList ∧
      ¬ "%2C".toList <:+: key.toList ∧ ¬ "%2c".toList <:+: key.toList
  := by
  rw [segments?_definitions, ← unescapeCommas_eq_self_iff]
  constructor
  · intro h
    obtain ⟨keys, one, same⟩ := Option.map_eq_some_iff.mp h
    obtain rfl : keys = [key] := (List.cons.inj same).2
    obtain ⟨part, rest, parts⟩ : ∃ part rest,
        (splitAll '/' (encodeUri key.toList)).filter (!·.isEmpty) = part :: rest := by
      apply List.exists_cons_of_ne_nil
      intro none
      simp [none] at one
    -- A single part without slashes stands for the key, so the key holds none either.
    have single : segment? part = some key := by
      simp only [parts, List.mapM_cons, Option.bind_eq_bind, Option.bind_eq_some_iff] at one
      obtain ⟨first, held, _, -, same⟩ := one
      rw [held, (List.cons.inj (Option.some.inj same)).1]
    have isPart : part ∈ splitAll '/' (encodeUri key.toList) :=
      List.mem_of_mem_filter (parts ▸ List.mem_cons_self)
    have free := slash_notMem_of_segment? (notMem_of_mem_splitAll isPart) single
    rw [splitAll_of_notMem (mt slash_mem_of_encodeUri free)] at parts
    have filled : encodeUri key.toList ≠ [] := by
      intro empty
      simp [empty] at parts
    obtain ⟨rfl, -⟩ : encodeUri key.toList = part ∧ [] = rest := by simpa [filled] using parts
    rw [segment?_encodeUri, Option.some.injEq] at single
    refine ⟨?_, free, by simpa using congrArg String.toList single⟩
    rintro rfl
    exact filled rfl
  · rintro ⟨nonempty, free, plain⟩
    have filled : encodeUri key.toList ≠ [] := by
      simpa [encodeUri_eq_nil_iff] using nonempty
    rw [splitAll_of_notMem (mt slash_mem_of_encodeUri free)]
    simp [filled, segment?_encodeUri, plain]

end Reference

end ConceptModel

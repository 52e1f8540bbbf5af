import ConceptModel.Proofs.Text.Utf8

/-!
# Percent escapes, one at a time

A text may be decoded run by run, or one escape at a time: an escape that leads a sequence of
bytes is then decoded with as many escapes after it as the sequence takes.  `Decodes` says by
rules what the result is, either way: `decodeUri?_eq_some_iff` and
`decodeStepwise?_eq_some_iff`.  So both decode the same texts, to the same results.
-/

namespace ConceptModel.Text

/-! ### Escapes -/

/-- The two characters of the escape are hexadecimal digits. -/
def Escape.IsHex (e : Escape) : Prop := isHexDigit e.high = true ∧ isHexDigit e.low = true

/-- The escape that a text starts with, if it does, and what follows it. -/
def escape? : List Char → Option (Escape × List Char)
  | '%' :: high :: low :: rest =>
    if isHexDigit high && isHexDigit low then some (⟨high, low⟩, rest) else none
  | _ => none

/-- The escapes that a text starts with, so many of them, and what follows them; none when
they are fewer. -/
def escapes? : Nat → List Char → Option (List Escape × List Char)
  | 0, cs => some ([], cs)
  | count + 1, cs => do
    let (e, rest) ← escape? cs
    let (es, after) ← escapes? count rest
    return (e :: es, after)

theorem hexValue_lt
    {c : Char} (h : isHexDigit c = true) :
  hexValue c < 16
  := by
  simp only [isHexDigit, Bool.or_eq_true, Bool.and_eq_true, decide_eq_true_eq, Char.le_def,
    UInt32.le_iff_toNat_le] at h
  simp only [hexValue, Char.le_def, UInt32.le_iff_toNat_le, Char.toNat]
  simp at h ⊢
  grind

theorem Escape.IsHex.byte_lt
    {e : Escape} (h : e.IsHex) :
  e.byte < 256
  := by
  have := hexValue_lt h.1
  have := hexValue_lt h.2
  simp only [Escape.byte]
  omega

/-- A text starts with an escape when its characters come first and its digits are
hexadecimal. -/
theorem escape?_eq_some_iff
    {cs rest : List Char} {e : Escape} :
  escape? cs = some (e, rest) ↔ cs = e.chars ++ rest ∧ e.IsHex
  := by
  obtain ⟨high, low⟩ := e
  unfold escape?
  split
  next => simp [Escape.chars, Escape.IsHex]; grind
  next other =>
    simp only [reduceCtorEq, false_iff, not_and]
    rintro rfl
    exact absurd rfl (other high low rest)

/-- A text is empty, or begins with a character that starts no escape, or with an escape. -/
theorem escape_induction
    {P : List Char → Prop} (nil : P [])
    (literal : ∀ c rest, escape? (c :: rest) = none → P rest → P (c :: rest))
    (escape : ∀ (e : Escape) rest, e.IsHex → P rest → P (e.chars ++ rest)) (cs : List Char) :
  P cs
  := by
  induction length : cs.length using Nat.strongRecOn generalizing cs with
  | ind n ih =>
    subst length
    cases first : escape? cs with
    | none =>
      cases cs with
      | nil => exact nil
      | cons c rest => exact literal c rest first (ih _ (by simp) rest rfl)
    | some found =>
      obtain ⟨e, rest⟩ := found
      obtain ⟨rfl, hex⟩ := escape?_eq_some_iff.mp first
      exact escape e rest hex (ih _ (by simp [Escape.chars]; omega) rest rfl)

/-- Escapes are taken off a text just in case it starts with them. -/
theorem escapes?_eq_some_iff
    {count : Nat} {cs after : List Char} {es : List Escape} :
  escapes? count cs = some (es, after) ↔
    es.length = count ∧ cs = es.flatMap Escape.chars ++ after ∧ ∀ e ∈ es, e.IsHex
  := by
  induction count generalizing cs after es with
  | zero =>
    simp only [escapes?, Option.some.injEq, Prod.mk.injEq, List.length_eq_zero_iff]
    constructor
    · rintro ⟨rfl, rfl⟩
      simp
    · rintro ⟨rfl, rfl, -⟩
      simp
  | succ count ih =>
    simp only [escapes?, Option.bind_eq_bind, Option.bind_eq_some_iff, Prod.exists, ih,
      escape?_eq_some_iff, Option.pure_def, Option.some.injEq, Prod.mk.injEq]
    constructor
    · rintro ⟨e, _, ⟨rfl, hex⟩, es, _, ⟨rfl, rfl, others⟩, rfl, rfl⟩
      simpa [hex] using others
    · rintro ⟨length, rfl, hex⟩
      obtain ⟨e, es, rfl⟩ := List.exists_cons_of_length_eq_add_one length
      obtain ⟨first, others⟩ := List.forall_mem_cons.mp hex
      exact ⟨e, _, ⟨by simp, first⟩, es, after, ⟨by simpa using length, rfl, others⟩, rfl, rfl⟩

/-! ### Sequences of bytes -/

/-- How many bytes the sequence takes that a byte leads, by the ones at the front of its bits;
a byte that continues a sequence leads none. -/
def sequenceLength? (lead : Nat) : Option Nat :=
  if lead < 0x80 then some 1
  else if lead < 0xC0 then none
  else if lead < 0xE0 then some 2
  else if lead < 0xF0 then some 3
  else if lead < 0xF8 then some 4
  else none

/-- The character that bytes encode, when they are well-formed UTF-8. -/
def character? (bytes : List Nat) : Option Char :=
  (bytes.map UInt8.ofNat).toByteArray.utf8DecodeChar? 0

theorem one_le_of_sequenceLength?
    {lead length : Nat} (h : sequenceLength? lead = some length) :
  1 ≤ length
  := by
  grind [sequenceLength?]

/-- The first byte of a character tells how many bytes it has. -/
theorem sequenceLength?_of_utf8Bytes
    {c : Char} {lead : Nat} {rest : List Nat} (h : utf8Bytes c = lead :: rest) :
  sequenceLength? lead = some (rest.length + 1)
  := by
  have valid := toNat_lt_or_gt_of_char c
  rw [utf8Bytes_eq] at h
  grind [sequenceLength?]

/-- Bytes that are as many as the first of them says encode a character when they are its
bytes. -/
theorem character?_eq_some_iff
    {lead : Nat} {rest : List Nat} {c : Char} (small : ∀ b ∈ lead :: rest, b < 256)
    (length : sequenceLength? lead = some (rest.length + 1)) :
  character? (lead :: rest) = some c ↔ utf8Bytes c = lead :: rest
  := by
  have values : ((lead :: rest).map UInt8.ofNat).map UInt8.toNat = lead :: rest := by
    rw [List.map_map, List.map_congr_left fun b mem => ?_, List.map_id']
    exact UInt8.toNat_ofNat_of_lt (small b mem)
  constructor
  · intro h
    obtain ⟨after, whole⟩ := ByteArray.exists_of_utf8DecodeChar?_eq_some h
    have whole := congrArg (fun bytes => bytes.data.toList.map UInt8.toNat) whole
    simp only [ByteArray.toList_data_append, List.toList_data_toByteArray, values,
      List.map_append] at whole
    -- The bytes after those of the character are none, as the first byte tells their number.
    obtain ⟨lead', rest', bytes⟩ := List.exists_cons_of_ne_nil (utf8Bytes_ne_nil c)
    rw [← utf8Bytes, bytes, List.cons_append, List.cons.injEq] at whole
    obtain ⟨rfl, rfl⟩ := whole
    have same := (sequenceLength?_of_utf8Bytes bytes).symm.trans length
    rw [Option.some.injEq, List.length_append] at same
    have none : after.data.toList.map UInt8.toNat = [] := List.eq_nil_of_length_eq_zero (by omega)
    rw [bytes, none, List.append_nil]
  · intro h
    have bytes : String.utf8EncodeChar c = (lead :: rest).map UInt8.ofNat := by
      rw [← h, utf8Bytes, List.map_map]
      exact (List.map_id'' (fun _ => UInt8.ofNat_toNat) _).symm
    have decoded := @ByteArray.utf8DecodeChar?_utf8EncodeChar_append .empty c
    rwa [bytes, ByteArray.append_empty] at decoded

/-! ### One escape at a time -/

/-- An escape that is taken off leaves a shorter text. -/
theorem length_of_escape?
    {cs rest : List Char} {e : Escape} (h : escape? cs = some (e, rest)) :
  rest.length < cs.length
  := by
  obtain ⟨rfl, -⟩ := escape?_eq_some_iff.mp h
  simp only [Escape.chars, List.length_append, List.length_cons]
  omega

/-- Escapes that are taken off leave no longer text. -/
theorem length_of_escapes?
    {count : Nat} {cs after : List Char} {es : List Escape}
    (h : escapes? count cs = some (es, after)) :
  after.length ≤ cs.length
  := by
  obtain ⟨-, rfl, -⟩ := escapes?_eq_some_iff.mp h
  simp

/-- A text with its percent escapes decoded one after the other.  The escape of an ASCII
character becomes this character unless it is reserved; any other escape must lead a sequence
whose bytes are escaped at once after it.  A percent sign that starts no escape stays. -/
def decodeStepwise? (cs : List Char) : Option (List Char) :=
  match _h : escape? cs with
  | none =>
    match cs with
    | [] => some []
    | c :: rest => (decodeStepwise? rest).map (c :: ·)
  | some (e, rest) =>
    if e.byte < 0x80 then
      if e.isReserved then (decodeStepwise? rest).map (e.chars ++ ·)
      else (decodeStepwise? rest).map (Char.ofNat e.byte :: ·)
    else
      match sequenceLength? e.byte with
      | none => none
      | some length =>
        match _h' : escapes? (length - 1) rest with
        | none => none
        | some (es, after) =>
          match character? ((e :: es).map Escape.byte) with
          | none => none
          | some c => (decodeStepwise? after).map (c :: ·)
termination_by cs.length
decreasing_by
  · simp
  · exact length_of_escape? _h
  · exact length_of_escape? _h
  · exact Nat.lt_of_le_of_lt (length_of_escapes? _h') (length_of_escape? _h)

example : decodeStepwise? "a%3Cb%2F%C3%A9%4".toList = some "a<b%2Fé%4".toList := by decide +kernel

example : decodeStepwise? "%C3%2F%A9".toList = none := by decide +kernel

/-! ### Rules -/

/-- By rules: the text with its percent escapes decoded. -/
inductive Decodes : List Char → List Char → Prop where
  | nil : Decodes [] []
  | literal {c : Char} {rest out : List Char} (plain : escape? (c :: rest) = none)
      (later : Decodes rest out) : Decodes (c :: rest) (c :: out)
  | kept {e : Escape} {rest out : List Char} (hex : e.IsHex) (reserved : e.isReserved = true)
      (later : Decodes rest out) : Decodes (e.chars ++ rest) (e.chars ++ out)
  | character {es : List Escape} {c : Char} {rest out : List Char} (hex : ∀ e ∈ es, e.IsHex)
      (spells : es.map Escape.byte = utf8Bytes c) (free : c ∉ uriReserved)
      (later : Decodes rest out) : Decodes (es.flatMap Escape.chars ++ rest) (c :: out)

/-- An escape is reserved just in case its byte is that of a reserved character. -/
theorem isReserved_iff
    {e : Escape} :
  e.isReserved = true ↔ ∃ c ∈ uriReserved, c.toNat = e.byte
  := by
  simp [Escape.isReserved]

theorem ascii_of_mem_uriReserved
    {c : Char} (h : c ∈ uriReserved) :
  c.toNat < 0x80
  := by
  have all : uriReserved.all (·.toNat < 0x80) = true := by decide +kernel
  simpa using List.all_eq_true.mp all c h

/-- The escapes of the bytes of a character are reserved just when the character is. -/
theorem notMem_uriReserved_iff
    {es : List Escape} {c : Char} (spells : es.map Escape.byte = utf8Bytes c) :
  c ∉ uriReserved ↔ ∀ e ∈ es, e.isReserved = false
  := by
  simp only [← Bool.not_eq_true, isReserved_iff]
  constructor
  · rintro free e mem ⟨r, reserved, same⟩
    have small : e.byte < 0x80 := same ▸ ascii_of_mem_uriReserved reserved
    have byte : e.byte ∈ utf8Bytes c := spells ▸ List.mem_map_of_mem mem
    obtain rfl : r = c := by rw [← Char.toNat_inj, same, eq_toNat_of_mem_utf8Bytes byte small]
    exact free reserved
  · intro free reserved
    rw [utf8Bytes_of_lt (ascii_of_mem_uriReserved reserved), List.map_eq_singleton_iff] at spells
    obtain ⟨e, rfl, same⟩ := spells
    exact free e List.mem_cons_self ⟨c, reserved, same.symm⟩

/-- What is decoded step by step is decoded by the rules. -/
theorem decodes_of_decodeStepwise?
    {cs out : List Char} (h : decodeStepwise? cs = some out) :
  Decodes cs out
  := by
  fun_induction decodeStepwise? cs generalizing out with
  | case1 =>
    obtain rfl := by simpa using h
    exact .nil
  | case2 c rest plain ih =>
    obtain ⟨out, held, rfl⟩ := Option.map_eq_some_iff.mp h
    exact .literal plain (ih held)
  | case3 cs e rest first _ reserved ih =>
    obtain ⟨out, held, rfl⟩ := Option.map_eq_some_iff.mp h
    obtain ⟨rfl, hex⟩ := escape?_eq_some_iff.mp first
    exact .kept hex reserved (ih held)
  | case4 cs e rest first ascii free ih =>
    obtain ⟨out, held, rfl⟩ := Option.map_eq_some_iff.mp h
    obtain ⟨rfl, hex⟩ := escape?_eq_some_iff.mp first
    have code : (Char.ofNat e.byte).toNat = e.byte := toNat_ofNat (by omega)
    have spells : [e].map Escape.byte = utf8Bytes (Char.ofNat e.byte) := by
      rw [utf8Bytes_of_lt (by omega), code]
      rfl
    have free := (notMem_uriReserved_iff spells).mpr (by simpa using free)
    simpa using Decodes.character (by simpa using hex) spells free (ih held)
  | case8 cs e rest first large length leads es after others c encodes ih =>
    obtain ⟨out, held, rfl⟩ := Option.map_eq_some_iff.mp h
    obtain ⟨rfl, hex⟩ := escape?_eq_some_iff.mp first
    obtain ⟨count, rfl, hexes⟩ := escapes?_eq_some_iff.mp others
    have hexes : ∀ e' ∈ e :: es, e'.IsHex := List.forall_mem_cons.mpr ⟨hex, hexes⟩
    have spells : (e :: es).map Escape.byte = utf8Bytes c := by
      have positive := one_le_of_sequenceLength? leads
      symm
      apply (character?_eq_some_iff _ _).mp encodes
      · rw [← List.map_cons, List.forall_mem_map]
        exact fun e' mem => (hexes e' mem).byte_lt
      · rw [leads, List.length_map, count, Nat.sub_add_cancel positive]
    have free : c ∉ uriReserved := by
      intro reserved
      have small : c.toNat < 0x80 := ascii_of_mem_uriReserved reserved
      rw [utf8Bytes_of_lt small, List.map_cons, List.cons.injEq] at spells
      exact large (spells.1 ▸ small)
    simpa using Decodes.character hexes spells free (ih held)
  | _ => simp at h

/-- One step of decoding at an escape. -/
theorem decodeStepwise?_of_escape?
    {cs rest : List Char} {e : Escape} (first : escape? cs = some (e, rest)) :
  decodeStepwise? cs =
    if e.byte < 0x80 then
      if e.isReserved then (decodeStepwise? rest).map (e.chars ++ ·)
      else (decodeStepwise? rest).map (Char.ofNat e.byte :: ·)
    else
      (sequenceLength? e.byte).bind fun length =>
        (escapes? (length - 1) rest).bind fun (es, after) =>
          (character? ((e :: es).map Escape.byte)).bind fun c =>
            (decodeStepwise? after).map (c :: ·)
  := by
  rw [decodeStepwise?.eq_def]
  split
  next none => simp [first] at none
  next e' rest' first' =>
    obtain ⟨rfl, rfl⟩ : e = e' ∧ rest = rest' := by simpa [first] using first'
    congr 1
    cases sequenceLength? e.byte with
    | none => rfl
    | some length =>
      simp only [Option.bind_some]
      split
      next none => rw [none]; rfl
      next es after others =>
        rw [others]
        simp only [Option.bind_some]
        cases character? ((e :: es).map Escape.byte) <;> rfl

/-- What is decoded by the rules is decoded step by step. -/
theorem decodeStepwise?_of_decodes
    {cs out : List Char} (h : Decodes cs out) :
  decodeStepwise? cs = some out
  := by
  induction h with
  | nil => simp [decodeStepwise?, escape?]
  | literal plain _ ih =>
    rw [decodeStepwise?.eq_def]
    split
    next => simp [ih]
    next first => simp [plain] at first
  | @kept e rest out hex reserved _ ih =>
    obtain ⟨r, mem, same⟩ := isReserved_iff.mp reserved
    have small : e.byte < 0x80 := same ▸ ascii_of_mem_uriReserved mem
    rw [decodeStepwise?_of_escape? (escape?_eq_some_iff.mpr ⟨rfl, hex⟩), if_pos small,
      if_pos reserved, ih, Option.map_some]
  | @character es c rest out hex spells free _ ih =>
    have free := (notMem_uriReserved_iff spells).mp free
    cases es with
    | nil => exact absurd spells.symm (utf8Bytes_ne_nil c)
    | cons e es =>
      obtain ⟨first, others⟩ := List.forall_mem_cons.mp hex
      rw [List.flatMap_cons, List.append_assoc,
        decodeStepwise?_of_escape? (escape?_eq_some_iff.mpr ⟨rfl, first⟩)]
      split
      next small =>
        have own : e.byte = c.toNat := eq_toNat_of_mem_utf8Bytes (by simp [← spells]) small
        obtain rfl : es = [] := by
          simpa [utf8Bytes_of_lt (own ▸ small)] using congrArg List.length spells
        rw [free e List.mem_cons_self, if_neg Bool.false_ne_true, own, Char.ofNat_toNat]
        simp [ih]
      next large =>
        have bytes : utf8Bytes c = e.byte :: es.map Escape.byte := spells.symm
        have length := sequenceLength?_of_utf8Bytes bytes
        have encodes :=
          (character?_eq_some_iff (fun b mem => utf8Bytes_lt (bytes ▸ mem)) length).mpr bytes
        have taken : escapes? es.length (es.flatMap Escape.chars ++ rest) = some (es, rest) :=
          escapes?_eq_some_iff.mpr ⟨rfl, rfl, others⟩
        rw [length, Option.bind_some, List.length_map, Nat.add_sub_cancel, taken, Option.bind_some]
        simp only [List.map_cons, encodes, Option.bind_some, ih, Option.map_some]

/-- Decoding step by step follows the rules. -/
theorem decodeStepwise?_eq_some_iff
    {cs out : List Char} :
  decodeStepwise? cs = some out ↔ Decodes cs out
  := ⟨decodes_of_decodeStepwise?, decodeStepwise?_of_decodes⟩

/-! ### Run by run -/

/-- Bytes that are decoded belong to escapes of characters. -/
theorem Decodes.append_of_decodeUtf8?
    {pending : List Escape} {before cs out : List Char} (hex : ∀ e ∈ pending, e.IsHex)
    (free : ∀ e ∈ pending, e.isReserved = false)
    (held : decodeUtf8? (pending.map Escape.byte) = some before) (later : Decodes cs out) :
  Decodes (pending.flatMap Escape.chars ++ cs) (before ++ out)
  := by
  rw [decodeUtf8?_eq_some_iff] at held
  induction before generalizing pending with
  | nil =>
    obtain rfl : pending = [] := by simpa using held
    exact later
  | cons c before ih =>
    rw [List.flatMap_cons, List.map_eq_append_iff] at held
    obtain ⟨own, others, rfl, spells, held⟩ := held
    simp only [List.mem_append, or_imp, forall_and] at hex free
    have later := ih hex.2 free.2 held
    rw [List.flatMap_append, List.append_assoc, List.cons_append]
    exact .character hex.1 spells ((notMem_uriReserved_iff spells).mpr free.1) later

/-- A run that is decoded after bytes that are pending may be decoded by the rules. -/
theorem Decodes.append_of_decodeRun?
    {pending run : List Escape} {before cs out : List Char} (hex : ∀ e ∈ pending ++ run, e.IsHex)
    (free : ∀ e ∈ pending, e.isReserved = false)
    (held : decodeRun? (pending.map Escape.byte) run = some before) (later : Decodes cs out) :
  Decodes ((pending ++ run).flatMap Escape.chars ++ cs) (before ++ out)
  := by
  induction run generalizing pending before with
  | nil =>
    rw [List.append_nil] at hex ⊢
    exact .append_of_decodeUtf8? hex free held later
  | cons e run ih =>
    rw [decodeRun?] at held
    split at held
    next reserved =>
      simp only [Option.bind_eq_bind, Option.bind_eq_some_iff, Option.pure_def,
        Option.some.injEq] at held
      obtain ⟨first, held, second, others, rfl⟩ := held
      simp only [List.mem_append, List.mem_cons, or_imp, forall_and, forall_eq] at hex
      have later := @ih [] second (by simpa using hex.2.2) (by simp) others
      have later := Decodes.kept hex.2.1 reserved later
      simpa using Decodes.append_of_decodeUtf8? hex.1 free held later
    next plain =>
      have split : pending ++ e :: run = (pending ++ [e]) ++ run := by simp
      rw [split] at hex ⊢
      apply ih hex
      · simp only [List.mem_append, List.mem_singleton, or_imp, forall_and, forall_eq]
        exact ⟨free, by simpa using plain⟩
      · simpa using held

/-- A run that is decoded by itself may be decoded by the rules. -/
theorem Decodes.append_run
    {run : List Escape} {before cs out : List Char} (hex : ∀ e ∈ run, e.IsHex)
    (held : decodeRun? [] run = some before) (later : Decodes cs out) :
  Decodes (run.flatMap Escape.chars ++ cs) (before ++ out)
  := @append_of_decodeRun? [] run before cs out hex (by simp) held later

/-- An escape makes the run before it longer. -/
theorem decodeAfter?_chars_append
    {run : List Escape} {e : Escape} {rest : List Char} (hex : e.IsHex) :
  decodeAfter? run (e.chars ++ rest) = decodeAfter? (run ++ [e]) rest
  := by
  simp [Escape.chars, decodeAfter?, hex.1, hex.2]

/-- A plain character ends the run before it. -/
theorem decodeAfter?_of_plain
    {run : List Escape} {c : Char} {rest : List Char} (plain : escape? (c :: rest) = none) :
  decodeAfter? run (c :: rest) = joinRun? run c (decodeAfter? [] rest)
  := by
  rw [decodeAfter?.eq_def]
  simp only
  split
  next high low tail =>
    rw [if_neg]
    intro starts
    simp only [Bool.and_eq_true, decide_eq_true_eq] at starts
    obtain ⟨⟨rfl, high⟩, low⟩ := starts
    simp [escape?, high, low] at plain
  next => rfl

/-- What is decoded with a run before it is decoded by the rules. -/
theorem decodes_of_decodeAfter?
    {run : List Escape} {cs out : List Char} (hex : ∀ e ∈ run, e.IsHex)
    (h : decodeAfter? run cs = some out) :
  Decodes (run.flatMap Escape.chars ++ cs) out
  := by
  induction cs using escape_induction generalizing run out with
  | nil =>
    rw [decodeAfter?] at h
    simpa using Decodes.append_run hex h .nil
  | literal c rest plain ih =>
    rw [decodeAfter?_of_plain plain] at h
    simp only [joinRun?, Option.bind_eq_bind, Option.bind_eq_some_iff, Option.pure_def,
      Option.some.injEq] at h
    obtain ⟨before, held, after, later, rfl⟩ := h
    have later := Decodes.literal plain (by simpa using @ih [] after (by simp) later)
    exact .append_run hex held later
  | escape e rest own ih =>
    rw [decodeAfter?_chars_append own] at h
    have hex : ∀ e' ∈ run ++ [e], e'.IsHex := by
      simp only [List.mem_append, List.mem_singleton, or_imp, forall_and, forall_eq]
      exact ⟨hex, own⟩
    simpa using ih hex h

/-- Escapes make the run before them longer. -/
theorem decodeAfter?_flatMap_append
    {run es : List Escape} {rest : List Char} (hex : ∀ e ∈ es, e.IsHex) :
  decodeAfter? run (es.flatMap Escape.chars ++ rest) = decodeAfter? (run ++ es) rest
  := by
  induction es generalizing run with
  | nil => simp
  | cons e es ih =>
    obtain ⟨first, others⟩ := List.forall_mem_cons.mp hex
    rw [List.flatMap_cons, List.append_assoc, decodeAfter?_chars_append first, ih others]
    simp

/-- A run is complete when it is decoded by itself whatever run follows it. -/
def Completes (run : List Escape) (before : List Char) : Prop :=
  ∀ later, decodeRun? [] (run ++ later) = (decodeRun? [] later).map (before ++ ·)

/-- The bytes of a character are decoded before the ones that follow. -/
theorem decodeRun?_bytes_append
    (c : Char) (pending : List Nat) (run : List Escape) :
  decodeRun? (utf8Bytes c ++ pending) run = (decodeRun? pending run).map (c :: ·)
  := by
  induction run generalizing pending with
  | nil => exact decodeUtf8?_bytes_append c pending
  | cons e run ih =>
    simp only [decodeRun?, decodeUtf8?_bytes_append, List.append_assoc, ih]
    split
    next => cases decodeUtf8? pending <;> cases decodeRun? [] run <;> simp
    next => rfl

/-- Escapes that are not reserved wait for a whole character. -/
theorem decodeRun?_append_of_free
    {es : List Escape} (free : ∀ e ∈ es, e.isReserved = false) (pending : List Nat)
    (later : List Escape) :
  decodeRun? pending (es ++ later) = decodeRun? (pending ++ es.map Escape.byte) later
  := by
  induction es generalizing pending with
  | nil => simp
  | cons e es ih =>
    obtain ⟨first, others⟩ := List.forall_mem_cons.mp free
    rw [List.cons_append, decodeRun?, first, if_neg Bool.false_ne_true, ih others]
    simp

theorem completes_nil :
  Completes [] []
  := by
  intro later
  simp

/-- What two runs come to, one after the other comes to. -/
theorem Completes.append
    {run es : List Escape} {before own : List Char} (h : Completes run before)
    (h' : Completes es own) :
  Completes (run ++ es) (before ++ own)
  := by
  intro later
  rw [List.append_assoc, h, h', Option.map_map]
  congr 1
  funext after
  simp

/-- A run that is complete is decoded. -/
theorem Completes.decodeRun?_eq
    {run : List Escape} {before : List Char} (h : Completes run before) :
  decodeRun? [] run = some before
  := by
  simpa [decodeRun?, decodeUtf8?] using h []

/-- A reserved escape is kept as it is. -/
theorem completes_reserved
    {e : Escape} (h : e.isReserved = true) :
  Completes [e] e.chars
  := by
  intro later
  rw [List.singleton_append, decodeRun?, if_pos h]
  cases decodeRun? [] later <;> simp [decodeUtf8?]

/-- The escapes of a character that is not reserved come to it. -/
theorem completes_character
    {es : List Escape} {c : Char} (spells : es.map Escape.byte = utf8Bytes c)
    (free : c ∉ uriReserved) :
  Completes es [c]
  := by
  intro later
  rw [decodeRun?_append_of_free ((notMem_uriReserved_iff spells).mp free), List.nil_append, spells,
    ← List.append_nil (utf8Bytes c), decodeRun?_bytes_append]
  rfl

/-- Reading by the rules goes on after a complete run. -/
theorem decodeAfter?_of_decodes
    {run : List Escape} {before cs out : List Char} (complete : Completes run before)
    (h : Decodes cs out) :
  decodeAfter? run cs = some (before ++ out)
  := by
  induction h generalizing run before with
  | nil => simpa [decodeAfter?] using complete.decodeRun?_eq
  | literal plain _ ih =>
    rw [decodeAfter?_of_plain plain, joinRun?, complete.decodeRun?_eq, ih completes_nil]
    rfl
  | kept hex reserved _ ih =>
    rw [decodeAfter?_chars_append hex, ih (complete.append (completes_reserved reserved)),
      List.append_assoc]
  | character hex spells free _ ih =>
    rw [decodeAfter?_flatMap_append hex, ih (complete.append (completes_character spells free)),
      List.append_assoc]
    rfl

/-- Decoding by runs follows the rules. -/
theorem decodeUri?_eq_some_iff
    {cs out : List Char} :
  decodeUri? cs = some out ↔ Decodes cs out
  := by
  constructor
  · intro h
    exact @decodes_of_decodeAfter? [] cs out (by simp) h
  · intro h
    exact decodeAfter?_of_decodes completes_nil h

/-- Decoding run by run is decoding one escape at a time. -/
theorem decodeUri?_eq_decodeStepwise?
    (cs : List Char) :
  decodeUri? cs = decodeStepwise? cs
  := by
  apply Option.ext
  intro out
  rw [decodeUri?_eq_some_iff, decodeStepwise?_eq_some_iff]

end ConceptModel.Text

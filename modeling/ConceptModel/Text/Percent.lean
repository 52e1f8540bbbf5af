import ConceptModel.Text.Digit

/-!
# Percent escapes

The decoding of percent escapes in a part of a URI.  Escapes that follow one another
form a run, and the bytes of a run are decoded together as UTF-8; the escapes of
reserved characters stay as they are and end a sequence of bytes.
-/

namespace ConceptModel.Text

/-! ### UTF-8 -/

/-- Whether a byte continues a sequence. -/
def isContinuation (b : Nat) : Bool := 0x80 ≤ b && b < 0xC0

/-- The character of a sequence of two bytes, unless one byte would do. -/
def decodePair? (a b : Nat) : Option Char :=
  if 0xC2 ≤ a && a < 0xE0 && isContinuation b then
    some (Char.ofNat ((a - 0xC0) * 0x40 + (b - 0x80)))
  else none

/-- The character of a sequence of three bytes, unless two would do or it is a
surrogate. -/
def decodeTriple? (a b c : Nat) : Option Char :=
  let code := (a - 0xE0) * 0x1000 + (b - 0x80) * 0x40 + (c - 0x80)
  if 0xE0 ≤ a && a < 0xF0 && isContinuation b && isContinuation c && 0x800 ≤ code
      && !(0xD800 ≤ code && code < 0xE000) then some (Char.ofNat code)
  else none

/-- The character of a sequence of four bytes, unless three would do or it lies beyond
the last code point. -/
def decodeQuadruple? (a b c d : Nat) : Option Char :=
  let code := (a - 0xF0) * 0x40000 + (b - 0x80) * 0x1000 + (c - 0x80) * 0x40 + (d - 0x80)
  if 0xF0 ≤ a && a < 0xF8 && isContinuation b && isContinuation c && isContinuation d
      && 0x10000 ≤ code && code < 0x110000 then some (Char.ofNat code)
  else none

/-- The characters of a sequence of bytes, when it is well-formed UTF-8. -/
def decodeUtf8? : List Nat → Option (List Char)
  | [] => some []
  | a :: rest =>
    if a < 0x80 then (decodeUtf8? rest).map (Char.ofNat a :: ·)
    else
      match rest with
      | b :: rest =>
        match decodePair? a b with
        | some ch => (decodeUtf8? rest).map (ch :: ·)
        | none =>
          match rest with
          | c :: rest =>
            match decodeTriple? a b c with
            | some ch => (decodeUtf8? rest).map (ch :: ·)
            | none =>
              match rest with
              | d :: rest =>
                match decodeQuadruple? a b c d with
                | some ch => (decodeUtf8? rest).map (ch :: ·)
                | none => none
              | [] => none
          | [] => none
      | [] => none

/-! ### Escapes -/

/-- A percent escape with its two hexadecimal digits. -/
structure Escape where
  high : Char
  low : Char
deriving DecidableEq, Repr

/-- The byte of an escape. -/
def Escape.byte (e : Escape) : Nat := 16 * hexValue e.high + hexValue e.low

/-- The characters of an escape. -/
def Escape.chars (e : Escape) : List Char := ['%', e.high, e.low]

/-- The characters whose escapes stay: those with a meaning in a URI. -/
def uriReserved : List Char := [';', '/', '?', ':', '@', '&', '=', '+', '$', ',', '#']

/-- Whether an escape stands for a reserved character. -/
def Escape.isReserved (e : Escape) : Bool :=
  uriReserved.any fun c => c.toNat = e.byte

/-- The decoding of a run of escapes after the bytes `pending`: reserved escapes stay,
and the bytes between them are decoded as UTF-8. -/
def decodeRun? (pending : List Nat) : List Escape → Option (List Char)
  | [] => decodeUtf8? pending
  | e :: rest =>
    if e.isReserved then do
      let before ← decodeUtf8? pending
      let after ← decodeRun? [] rest
      pure (before ++ e.chars ++ after)
    else decodeRun? (pending ++ [e.byte]) rest

/-- The decoding of a run of escapes, then a character as it is, then what follows. -/
def joinRun? (run : List Escape) (c : Char) (following : Option (List Char)) :
    Option (List Char) := do
  let before ← decodeRun? [] run
  let after ← following
  pure (before ++ c :: after)

/-- The decoding of a text after the run of escapes `run`: runs are decoded as a whole,
and what is no escape stays. -/
def decodeAfter? (run : List Escape) : List Char → Option (List Char)
  | [] => decodeRun? [] run
  | first :: rest =>
    match _h : rest with
    | high :: low :: tail =>
      if first = '%' && isHexDigit high && isHexDigit low then
        decodeAfter? (run ++ [⟨high, low⟩]) tail
      else joinRun? run first (decodeAfter? [] rest)
    | _ => joinRun? run first (decodeAfter? [] rest)
termination_by cs => cs.length
decreasing_by all_goals (subst_vars; simp; try omega)

/-- A text with its percent escapes decoded, or `none` when the bytes of a run are not
well-formed UTF-8. -/
def decodeUri? (cs : List Char) : Option (List Char) := decodeAfter? [] cs

/-! ### Examples -/

example : decodeUri? "a%3Cb%2F%C3%A9".toList = some "a<b%2Fé".toList := by decide +kernel

example : decodeUri? "%FF".toList = none := by decide +kernel

end ConceptModel.Text

import ConceptModel.Json.Basic
import ConceptModel.Text.Surrogate

/-!
# Tokens of JSON texts

The tokens of a JSON text: punctuation, strings with their escapes resolved, numbers,
and the names `null`, `true` and `false`.  Beyond the standard, the names `NaN`,
`Infinity` and `-Infinity` are numbers.
-/

namespace ConceptModel.Json

open Text (isHexDigit numeral)

/-- A token of a JSON text. -/
inductive Token where
  | openObject
  | closeObject
  | openArray
  | closeArray
  | colon
  | comma
  | string (value : String)
  | atom (value : Json)
  /-- What starts no token. -/
  | broken
deriving Repr

/-! ### Strings -/

/-- The number that four hexadecimal digits write. -/
def codeUnit? (a b c d : Char) : Option Nat :=
  if isHexDigit a && isHexDigit b && isHexDigit c && isHexDigit d then
    some (numeral 16 [a, b, c, d])
  else none

/-- The character that a simple escape stands for. -/
def simpleEscape? : Char → Option Char
  | '"' => some '"'
  | '\\' => some '\\'
  | '/' => some '/'
  | 'b' => some '\x08'
  | 'f' => some '\x0c'
  | 'n' => some '\n'
  | 'r' => some '\r'
  | 't' => some '\t'
  | _ => none

/-- The character of a surrogate pair, if the units form one. -/
def surrogatePair? (high low : Nat) : Option Char :=
  if 0xD800 ≤ high && high < 0xDC00 && 0xDC00 ≤ low && low < 0xE000 then
    some (Char.ofNat (0x10000 + (high - 0xD800) * 0x400 + (low - 0xDC00)))
  else none

/-- The character of a code unit, or the one that stands for a lone surrogate. -/
def unitChar (unit : Nat) : Char :=
  if 0xD800 ≤ unit && unit < 0xE000 then Text.surrogate unit else Char.ofNat unit

/-- The rest of a string after its opening quote, and what follows its closing quote;
`fuel` bounds the number of characters. -/
def scanString? : Nat → List Char → Option (List Char × List Char)
  | 0, _ => none
  | _ + 1, [] => none
  | _ + 1, '"' :: rest => some ([], rest)
  | fuel + 1, '\\' :: 'u' :: a :: b :: c :: d :: rest =>
    match codeUnit? a b c d with
    | none => none
    | some unit =>
      let paired :=
        match rest with
        | '\\' :: 'u' :: a :: b :: c :: d :: rest =>
          (codeUnit? a b c d).bind fun low =>
            (surrogatePair? unit low).map fun ch => (ch, rest)
        | _ => none
      match paired with
      | some (ch, rest) =>
        (scanString? fuel rest).map fun (cs, after) => (ch :: cs, after)
      | none => (scanString? fuel rest).map fun (cs, after) => (unitChar unit :: cs, after)
  | fuel + 1, '\\' :: e :: rest =>
    match simpleEscape? e with
    | some ch => (scanString? fuel rest).map fun (cs, after) => (ch :: cs, after)
    | none => none
  | fuel + 1, ch :: rest =>
    if ch < ' ' || ch = '\\' then none
    else (scanString? fuel rest).map fun (cs, after) => (ch :: cs, after)

/-! ### Numbers -/

/-- The number that decimal digits write. -/
def decimalValue (digits : List Char) : Nat :=
  digits.foldl (fun n d => 10 * n + (d.toNat - 0x30)) 0

/-- The digits of a fraction after its point, and what follows; no digits when there is
no fraction. -/
def scanFraction (cs : List Char) : List Char × List Char :=
  match cs with
  | '.' :: d :: rest =>
    if d.isDigit then (d :: rest).span Char.isDigit else ([], cs)
  | _ => ([], cs)

/-- The digits of an exponent with a sign in front, and what follows. -/
def scanSigned? (cs : List Char) : Option (Int × List Char) :=
  let (negative, cs) :=
    match cs with
    | '-' :: rest => (true, rest)
    | '+' :: rest => (false, rest)
    | _ => (false, cs)
  match cs.span Char.isDigit with
  | ([], _) => none
  | (digits, rest) => some (Double.signed negative (decimalValue digits), rest)

/-- The value of an exponent, and what follows; none when there is no exponent. -/
def scanExponent? (cs : List Char) : Option (Int × List Char) :=
  match cs with
  | 'e' :: rest | 'E' :: rest => scanSigned? rest
  | _ => none

/-- The digits of an integer, and what follows: a zero stands alone. -/
def scanInteger? (cs : List Char) : Option (List Char × List Char) :=
  match cs with
  | '0' :: rest => some (['0'], rest)
  | _ =>
    match cs.span Char.isDigit with
    | ([], _) => none
    | (digits, rest) => some (digits, rest)

/-- An unsigned number, negated when `negative`, and what follows.  A fraction or an
exponent makes it a double. -/
def scanNumber? (negative : Bool) (cs : List Char) : Option (Number × List Char) :=
  (scanInteger? cs).map fun (whole, rest) =>
    let (fraction, afterFraction) := scanFraction rest
    let digits := decimalValue (whole ++ fraction)
    match scanExponent? afterFraction with
    | some (exponent, after) =>
      (.double (.ofDecimal negative digits (exponent - fraction.length)), after)
    | none =>
      if fraction.isEmpty then (.int (Double.signed negative digits), rest)
      else (.double (.ofDecimal negative digits (-fraction.length)), afterFraction)

/-! ### Tokens -/

/-- Whether a character may stand between tokens. -/
def isSpace (c : Char) : Bool := c = ' ' || c = '\t' || c = '\n' || c = '\r'

/-- The names that stand for values. -/
def names : List (List Char × Json) :=
  [("null".toList, null), ("true".toList, bool true), ("false".toList, bool false),
   ("NaN".toList, number (.double .nan)),
   ("Infinity".toList, number (.double (.infinite false))),
   ("-Infinity".toList, number (.double (.infinite true)))]

/-- The value of a name at the start of a text, and what follows. -/
def scanName? (cs : List Char) : Option (Json × List Char) :=
  names.findSome? fun (name, value) =>
    if name.isPrefixOf cs then some (value, cs.drop name.length) else none

/-- A value without parts at the start of a text, and what follows. -/
def scanAtom? (cs : List Char) : Option (Json × List Char) :=
  match scanName? cs with
  | some hit => some hit
  | none =>
    match cs with
    | '-' :: rest => (scanNumber? true rest).map fun (x, after) => (number x, after)
    | _ => (scanNumber? false cs).map fun (x, after) => (number x, after)

/-- The token that one character of punctuation makes. -/
def punctuation? : Char → Option Token
  | '{' => some .openObject
  | '}' => some .closeObject
  | '[' => some .openArray
  | ']' => some .closeArray
  | ':' => some .colon
  | ',' => some .comma
  | _ => none

/-- The tokens of a text, up to the first place where none starts; `fuel` bounds the
number of steps. -/
def tokens : Nat → List Char → List Token
  | 0, _ => [.broken]
  | _ + 1, [] => []
  | fuel + 1, c :: rest =>
    if isSpace c then tokens fuel rest
    else
      match punctuation? c with
      | some t => t :: tokens fuel rest
      | none =>
        if c = '"' then
          match scanString? (rest.length + 1) rest with
          | some (s, after) => .string (String.ofList s) :: tokens fuel after
          | none => [.broken]
        else
          match scanAtom? (c :: rest) with
          | some (v, after) => .atom v :: tokens fuel after
          | none => [.broken]

end ConceptModel.Json

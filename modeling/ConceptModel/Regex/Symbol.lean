import ConceptModel.Text.CharacterName.Lookup
import ConceptModel.Text.Surrogate

/-!
# Symbols of patterns

The symbols of a regular expression: plain characters, and characters after a
backslash.  A class in brackets and an escape are read here, because neither holds a
group.
-/

namespace ConceptModel.Regex

open Text (codePoint isHexDigit numeral)

/-- A character of a pattern, a character after a backslash, or a backslash at the
end. -/
inductive Symbol where
  | plain (c : Char)
  | escaped (c : Char)
  | dangling
deriving DecidableEq, Repr

/-- The symbols of a pattern. -/
def symbols : List Char → List Symbol
  | [] => []
  | ['\\'] => [.dangling]
  | '\\' :: c :: rest => .escaped c :: symbols rest
  | c :: rest => .plain c :: symbols rest

/-- The longest run of plain characters that pass a test, at most `limit` of them, and
what follows. -/
def takePlain (test : Char → Bool) : Nat → List Symbol → List Char × List Symbol
  | limit + 1, .plain c :: rest =>
    if test c then
      let (cs, after) := takePlain test limit rest
      (c :: cs, after)
    else ([], .plain c :: rest)
  | _, ss => ([], ss)

/-- The characters up to a plain character that ends a name, and what follows; there is
no name when it is empty, holds a backslash or does not end. -/
def takeName? (terminator : Char) : List Symbol → Option (List Char × List Symbol)
  | .plain c :: rest =>
    if c = terminator then some ([], rest)
    else (takeName? terminator rest).map fun (cs, after) => (c :: cs, after)
  | _ => none

/-! ### Octal digits -/

/-- Whether a character is an octal digit. -/
def isOctalDigit (c : Char) : Bool := '0' ≤ c && c ≤ '7'

/-! ### Escapes -/

/-- What an escape stands for outside of a class. -/
inductive Atom where
  /-- One character, of the given code point. -/
  | char (code : Nat)
  /-- One character of a category. -/
  | category
  /-- A place in the text. -/
  | boundary
  /-- What a group has matched. -/
  | group (number : Nat)
deriving DecidableEq, Repr

/-- The code point that exactly `count` hexadecimal digits write, and what follows. -/
def hexEscape? (count : Nat) (ss : List Symbol) : Option (Nat × List Symbol) :=
  let (digits, rest) := takePlain isHexDigit count ss
  let code := numeral 16 digits
  if digits.length = count && code < 0x110000 then some (code, rest) else none

/-- The code point of the character that is named in braces, and what follows. -/
def namedEscape? : List Symbol → Option (Nat × List Symbol)
  | .plain c :: rest =>
    if c = '{' then
      (takeName? '}' rest).bind fun (name, after) =>
        (Text.codePointNamed? name).map fun code => (code, after)
    else none
  | _ => none

/-- The code point of an escape that is the same inside and outside of a class, and what
follows.  A letter without a meaning cannot be escaped. -/
def commonEscape? (c : Char) (ss : List Symbol) : Option (Nat × List Symbol) :=
  match c with
  | 'a' => some (7, ss)
  | 'f' => some (12, ss)
  | 'n' => some (10, ss)
  | 'r' => some (13, ss)
  | 't' => some (9, ss)
  | 'v' => some (11, ss)
  | 'x' => hexEscape? 2 ss
  | 'u' => hexEscape? 4 ss
  | 'U' => hexEscape? 8 ss
  | 'N' => namedEscape? ss
  | _ => if c.isAlphanum then none else some (codePoint c, ss)

/-- Whether an escape stands for a category of characters. -/
def isCategory (c : Char) : Bool := ['d', 'D', 's', 'S', 'w', 'W'].contains c

/-- Whether an escape stands for a place in the text. -/
def isBoundary (c : Char) : Bool := ['A', 'b', 'B', 'Z'].contains c

/-- A digit after a backslash: three octal digits write a character, as does whatever
starts with a zero; anything else is the number of a group. -/
def digitEscape? (c : Char) (ss : List Symbol) : Option (Atom × List Symbol) :=
  if c = '0' then
    let (digits, rest) := takePlain isOctalDigit 2 ss
    some (.char (numeral 8 digits), rest)
  else
    match takePlain Char.isDigit 1 ss with
    | (d :: _, rest) =>
      match takePlain isOctalDigit 1 rest with
      | (e :: _, rest') =>
        if isOctalDigit c && isOctalDigit d then
          let code := numeral 8 [c, d, e]
          if code ≤ 0xFF then some (.char code, rest') else none
        else some (.group (numeral 10 [c, d]), rest)
      | ([], _) => some (.group (numeral 10 [c, d]), rest)
    | ([], _) => some (.group (numeral 10 [c]), ss)

/-- What an escape outside of a class stands for, and what follows. -/
def escape? (c : Char) (ss : List Symbol) : Option (Atom × List Symbol) :=
  if isBoundary c then some (.boundary, ss)
  else if isCategory c then some (.category, ss)
  else if c.isDigit then digitEscape? c ss
  else (commonEscape? c ss).map fun (code, rest) => (.char code, rest)

/-- The code point of an escape in a class, and what follows; there is none for a
category. -/
def classEscape? (c : Char) (ss : List Symbol) : Option (Option Nat × List Symbol) :=
  if isCategory c then some (none, ss)
  else if c = 'b' then some (some 8, ss)
  else if isOctalDigit c then
    let (digits, rest) := takePlain isOctalDigit 2 ss
    let code := numeral 8 (c :: digits)
    if code ≤ 0xFF then some (some code, rest) else none
  else (commonEscape? c ss).map fun (code, rest) => (some code, rest)

/-! ### Classes -/

/-- The code point of a member of a class, and what follows. -/
def member? : List Symbol → Option (Option Nat × List Symbol)
  | .plain c :: rest => some (some (codePoint c), rest)
  | .escaped c :: rest => classEscape? c rest
  | _ => none

/-- What follows a class after its opening bracket.  A bracket that closes does so only
after a member, unless a hyphen stands before it; the ends of a range are characters
in order.  `fuel` bounds the number of members. -/
def afterClass? : Nat → Bool → List Symbol → Option (List Symbol)
  | 0, _, _ => none
  | fuel + 1, isEmpty, ss =>
    if ss.head? = some (.plain ']') && !isEmpty then some ss.tail
    else
      match member? ss with
      | none => none
      | some (low, .plain '-' :: rest) =>
        if rest.head? = some (.plain ']') then some rest.tail
        else
          match low, member? rest with
          | some lo, some (some hi, after) =>
            if lo ≤ hi then afterClass? fuel false after else none
          | _, _ => none
      | some (_, after) => afterClass? fuel false after

/-- What follows a class, which may start with a circumflex. -/
def class? (ss : List Symbol) : Option (List Symbol) :=
  match ss with
  | .plain '^' :: rest => afterClass? (rest.length + 1) true rest
  | _ => afterClass? (ss.length + 1) true ss

end ConceptModel.Regex

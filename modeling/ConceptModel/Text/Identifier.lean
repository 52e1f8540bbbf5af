import ConceptModel.Text.IdentifierTable
import ConceptModel.Text.Surrogate

/-!
# Identifiers

The identifiers of the modelling language are sequences of items, each a character or
an escape such as `\u00e9`.  A text becomes an identifier by `normalizeIdentifier`,
which replaces blanks, hyphens and angle brackets by underscores, writes any other
foreign character as its code point, and puts an underscore in front when the first
item cannot stand there.  A name is a text whose path separators have become `$_`.
-/

namespace ConceptModel.Text

/-! ### Characters -/

/-- Characters that count as blank. -/
def blanks : CodePoints :=
  [(0x9, 0xD), (0x1C, 0x20), (0x85, 0x85), (0xA0, 0xA0), (0x1680, 0x1680), (0x2000, 0x200A),
   (0x2028, 0x2029), (0x202F, 0x202F), (0x205F, 0x205F), (0x3000, 0x3000)]

/-- Whether a character is blank. -/
def isBlank (c : Char) : Bool := blanks.holds c.toNat

/-- Whether a character may start an identifier: a letter, a letter number, a dollar
sign or an underscore. -/
def isIdentifierStart (c : Char) : Bool :=
  c = '$' || c = '_' || identifierStarts.holds c.toNat

/-- Whether a character may follow in an identifier: one that may start it, a mark, a
digit, a connector or a zero-width joiner. -/
def isIdentifierPart (c : Char) : Bool :=
  isIdentifierStart c || c = '\u200c' || c = '\u200d' || identifierExtensions.holds c.toNat

/-! ### Items -/

/-- An item of a text: an escape with its four hexadecimal digits, or one character. -/
inductive Item where
  | escape (a b c d : Char)
  | char (c : Char)
deriving DecidableEq, Repr

/-- The characters of an item. -/
def Item.chars : Item → List Char
  | escape a b c d => ['\\', 'u', a, b, c, d]
  | char c => [c]

/-- The items of a text, escapes first. -/
def items : List Char → List Item
  | [] => []
  | first :: rest =>
    match _h : rest with
    | 'u' :: a :: b :: c :: d :: tail =>
      if first = '\\' && isHexDigit a && isHexDigit b && isHexDigit c && isHexDigit d then
        .escape a b c d :: items tail
      else .char first :: items rest
    | _ => .char first :: items rest
termination_by cs => cs.length
decreasing_by all_goals (subst_vars; simp; try omega)

/-- Whether an item may start an identifier. -/
def Item.isStart : Item → Bool
  | escape .. => true
  | char c => isIdentifierStart c

/-- Whether an item may follow in an identifier. -/
def Item.isPart : Item → Bool
  | escape .. => true
  | char c => isIdentifierPart c

/-! ### Normal forms -/

/-- Blanks, hyphens and angle brackets read as underscores. -/
def underscored (c : Char) : Char :=
  if isBlank c || c = '-' || c = '<' || c = '>' then '_' else c

/-- The characters that stand for an item inside an identifier: the item itself, or an
underscore and the code point in hexadecimal. -/
def Item.normalize (i : Item) : List Char :=
  match i with
  | escape .. => i.chars
  | char c => if isIdentifierPart c then [c] else '_' :: Nat.toDigits 16 (codePoint c)

/-- The characters with an underscore in front, unless the first item may start an
identifier. -/
def guardStart (cs : List Char) : List Char :=
  match items cs with
  | first :: _ => if first.isStart then cs else '_' :: cs
  | [] => ['_']

/-- The identifier that stands for the characters of a text. -/
def normalizeChars (cs : List Char) : List Char :=
  guardStart ((items (cs.map underscored)).flatMap Item.normalize)

/-- The identifier that stands for a text. -/
def normalizeIdentifier (s : String) : String :=
  String.ofList (normalizeChars s.toList)

/-! ### Names -/

/-- What joins the segments of a path to a name. -/
def nameSeparator : String := "$_"

/-- The characters that stand for a character of a raw name: slashes and braces
separate. -/
def separated (c : Char) : List Char :=
  if c = '/' || c = '{' || c = '}' then nameSeparator.toList else [c]

/-- The identifier that stands for a raw declaration name. -/
def normalizeName (s : String) : String :=
  String.ofList (normalizeChars (s.toList.flatMap separated))

/-- The raw name of a declaration that stands at a place of a document. -/
def pathName (path : List String) : String := nameSeparator.intercalate path

/-! ### Examples -/

example : normalizeIdentifier "Bar<Baz,Bing>" = "Bar_Baz_2cBing_" := by decide +kernel

example : normalizeIdentifier "" = "_" := by decide +kernel

example : normalizeName "/pets/\x7bid\x7d" = "$_pets$_$_id$_" := by decide +kernel

end ConceptModel.Text

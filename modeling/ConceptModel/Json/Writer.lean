import ConceptModel.Json.Basic
import ConceptModel.Text.Surrogate

/-!
# Writing JSON texts

The text of a JSON value in a given style.  A style says whether characters beyond the
printable ones of ASCII are escaped, what stands between elements and after a key, and
with what, if anything, the lines of a nested value are indented.
-/

namespace ConceptModel.Json

open Text (codePoint hexDigits isHighSurrogate isLowSurrogate)

/-- How a JSON text is laid out. -/
structure Style where
  /-- Whether characters beyond the printable ones of ASCII are escaped. -/
  ascii : Bool
  /-- What stands between two elements. -/
  itemSeparator : String
  /-- What stands between a key and its value. -/
  keySeparator : String
  /-- What a line is indented with per level; on one line when there is none. -/
  indent : Option String

/-- Everything on one line, with blanks after commas and colons. -/
def Style.line (ascii : Bool) : Style := ⟨ascii, ", ", ": ", none⟩

/-- Everything on one line, without blanks, in ASCII. -/
def Style.tight : Style := ⟨true, ",", ":", none⟩

/-- An element to a line. -/
def Style.indented (ascii : Bool) (unit : String) : Style := ⟨ascii, ",", ": ", some unit⟩

/-! ### Strings -/

/-- The escape of a code unit. -/
def unitEscape (unit : Nat) : List Char := '\\' :: 'u' :: hexDigits 4 unit

/-- The escape of a character: one unit, or two beyond the basic plane. -/
def charEscape (c : Char) : List Char :=
  if codePoint c < 0x10000 then unitEscape (codePoint c)
  else
    unitEscape (0xD800 + (codePoint c - 0x10000) / 0x400)
      ++ unitEscape (0xDC00 + (codePoint c - 0x10000) % 0x400)

/-- A character inside quotes. -/
def writeChar (ascii : Bool) (c : Char) : List Char :=
  if c = '"' then ['\\', '"']
  else if c = '\\' then ['\\', '\\']
  else if c = '\n' then ['\\', 'n']
  else if c = '\r' then ['\\', 'r']
  else if c = '\t' then ['\\', 't']
  else if c = '\x08' then ['\\', 'b']
  else if c = '\x0c' then ['\\', 'f']
  else if c < ' ' || (ascii && 0x7F ≤ c.toNat) then charEscape c
  else [c]

/-- Characters inside quotes.  No text that was read holds two surrogates that make a
pair, as they are read as one character; the escapes of two such would be as well, so
the first of them is not escaped. -/
def writeChars (ascii : Bool) : List Char → List Char
  | [] => []
  | c :: rest =>
    if isHighSurrogate c && rest.head?.any isLowSurrogate then c :: writeChars ascii rest
    else writeChar ascii c ++ writeChars ascii rest

/-- A string between quotes. -/
def quote (ascii : Bool) (s : String) : String :=
  String.ofList ('"' :: writeChars ascii s.toList ++ ['"'])

/-! ### Values -/

/-- A line break and the indentation of a level, if lines are indented at all. -/
def Style.lineBreak (style : Style) (level : Nat) : String :=
  match style.indent with
  | some unit => "\n" ++ String.join (List.replicate level unit)
  | none => ""

/-- Parts between brackets at a level, each on a line of its own if lines are
indented. -/
def Style.bracket (style : Style) (level : Nat) (opening closing : String)
    (parts : List String) : String :=
  if parts.isEmpty then opening ++ closing
  else
    opening ++ style.lineBreak (level + 1)
      ++ (style.itemSeparator ++ style.lineBreak (level + 1)).intercalate parts
      ++ style.lineBreak level ++ closing

mutual

/-- The text of a value at a level. -/
def writeAt (style : Style) (level : Nat) : Json → String
  | null => "null"
  | bool b => if b then "true" else "false"
  | number x => x.text .json
  | string s => quote style.ascii s
  | array vs => style.bracket level "[" "]" (writeElements style (level + 1) vs)
  | object fields =>
    style.bracket level "\x7b" "\x7d" (writeFields style (level + 1) fields)

/-- The texts of the elements of an array. -/
def writeElements (style : Style) (level : Nat) : List Json → List String
  | [] => []
  | v :: vs => writeAt style level v :: writeElements style level vs

/-- The texts of the fields of an object. -/
def writeFields (style : Style) (level : Nat) : List (String × Json) → List String
  | [] => []
  | (key, v) :: fields =>
    (quote style.ascii key ++ style.keySeparator ++ writeAt style level v)
      :: writeFields style level fields

end

/-- The text of a value. -/
def write (style : Style) (v : Json) : String := writeAt style 0 v

/-- The text of a value on its own: a string without quotes, a number without a
fractional part where it has none, and anything else as a JSON text without blanks. -/
def bare : Json → String
  | string s => s
  | number x => x.compact
  | v => write .tight v

/-! ### Examples -/

example : write (.indented true " ") (object [("é", array [number (.int 1), null])]) =
    "\x7b\n \"\\u00e9\": [\n  1,\n  null\n ]\n\x7d" := by
  decide +kernel

end ConceptModel.Json

import ConceptModel.Json.Basic
import ConceptModel.Text.Printable
import ConceptModel.Text.Surrogate

/-!
# Plain texts of values

The plain text of a value, as messages and printed settings show it.  A string stands
for itself, except inside a container, where it is quoted: with single quotes, or with
double quotes when it holds single quotes only.
-/

namespace ConceptModel.Json

open Text (codePoint hexDigits isPrintable)

/-- The single quote. -/
def singleQuote : Char := '\x27'

/-- The escape of a character that is not printable: two, four or eight digits. -/
def plainEscape (c : Char) : List Char :=
  let code := codePoint c
  if code < 0x100 then '\\' :: 'x' :: hexDigits 2 code
  else if code < 0x10000 then '\\' :: 'u' :: hexDigits 4 code
  else '\\' :: 'U' :: hexDigits 8 code

/-- A character between quotes. -/
def plainChar (quotation c : Char) : List Char :=
  if c = quotation || c = '\\' then ['\\', c]
  else if c = '\n' then ['\\', 'n']
  else if c = '\r' then ['\\', 'r']
  else if c = '\t' then ['\\', 't']
  else if isPrintable c then [c]
  else plainEscape c

/-- A string between quotes of the kind that needs fewer escapes. -/
def plainQuote (s : String) : String :=
  let quotation :=
    if s.toList.contains singleQuote && !s.toList.contains '"' then '"' else singleQuote
  String.ofList (quotation :: s.toList.flatMap (plainChar quotation) ++ [quotation])

mutual

/-- The plain text of a value inside a container. -/
def plainNested : Json → String
  | null => "None"
  | bool b => if b then "True" else "False"
  | number x => x.plain
  | string s => plainQuote s
  | array vs => "[" ++ ", ".intercalate (plainElements vs) ++ "]"
  | object fields => "\x7b" ++ ", ".intercalate (plainFields fields) ++ "\x7d"

/-- The plain texts of the elements of an array. -/
def plainElements : List Json → List String
  | [] => []
  | v :: vs => plainNested v :: plainElements vs

/-- The plain texts of the fields of an object. -/
def plainFields : List (String × Json) → List String
  | [] => []
  | (key, v) :: fields => (plainQuote key ++ ": " ++ plainNested v) :: plainFields fields

end

/-- The plain text of a value; a string stands for itself. -/
def plain : Json → String
  | string s => s
  | v => plainNested v

/-! ### Examples -/

example : plain (object [("a", null), ("b", array [bool true, string "it\x27s"])]) =
    "\x7b\x27a\x27: None, \x27b\x27: [True, \"it\x27s\"]\x7d" := by
  decide +kernel

end ConceptModel.Json

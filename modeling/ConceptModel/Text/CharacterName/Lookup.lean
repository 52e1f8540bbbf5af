import ConceptModel.Text.CharacterName.Aliases
import ConceptModel.Text.CharacterName.EastAsian
import ConceptModel.Text.CharacterName.European
import ConceptModel.Text.CharacterName.Hieroglyphs
import ConceptModel.Text.CharacterName.Historic
import ConceptModel.Text.CharacterName.MiddleEastern
import ConceptModel.Text.CharacterName.Musical
import ConceptModel.Text.CharacterName.Operators
import ConceptModel.Text.CharacterName.Phonetic
import ConceptModel.Text.CharacterName.Pictographs
import ConceptModel.Text.CharacterName.PresentationForms
import ConceptModel.Text.CharacterName.Regional
import ConceptModel.Text.CharacterName.SouthAsian
import ConceptModel.Text.CharacterName.Symbols
import ConceptModel.Text.CodePoints
import ConceptModel.Text.Digit

/-!
# Characters by name

The character that a name in Unicode 14 belongs to.  Syllables of Hangul and unified
ideographs have names made by rule, which are read as they are written; every other
name stands in a table, or ends in a number or in the code point of its character, and
is read without regard to case.
-/

namespace ConceptModel.Text

/-! ### Names made by rule -/

/-- The names of the first parts of syllables. -/
def leadNames : List String :=
  ["G", "GG", "N", "D", "DD", "R", "M", "B", "BB", "S", "SS", "", "J", "JJ", "C", "K", "T",
   "P", "H"]

/-- The names of the middle parts of syllables. -/
def vowelNames : List String :=
  ["A", "AE", "YA", "YAE", "EO", "E", "YEO", "YE", "O", "WA", "WAE", "OE", "YO", "U", "WEO",
   "WE", "WI", "YU", "EU", "YI", "I"]

/-- The names of the last parts of syllables. -/
def tailNames : List String :=
  ["", "G", "GG", "GS", "N", "NJ", "NH", "D", "L", "LG", "LM", "LB", "LS", "LT", "LP", "LH",
   "M", "B", "BS", "S", "SS", "NG", "J", "C", "K", "T", "P", "H"]

/-- The position of the longest of some texts that characters start with, and what
follows it. -/
def takeLongest? (texts : List String) (cs : List Char) : Option (Nat × List Char) :=
  let found := texts.zipIdx.filterMap fun (text, index) =>
    (text.toList.isPrefixOf? cs).map fun rest => (index, rest)
  found.foldl
    (fun best (index, rest) =>
      match best with
      | some (_, shortest) =>
        if rest.length < shortest.length then some (index, rest) else best
      | none => some (index, rest))
    none

/-- The code point of the syllable whose parts are named. -/
def syllable? (cs : List Char) : Option Nat :=
  match takeLongest? leadNames cs with
  | none => none
  | some (lead, cs) =>
    match takeLongest? vowelNames cs with
    | none => none
    | some (vowel, cs) =>
      match takeLongest? tailNames cs with
      | some (tail, []) =>
        some (0xAC00 + (lead * vowelNames.length + vowel) * tailNames.length + tail)
      | _ => none

/-- The unified ideographs. -/
def unifiedIdeographs : CodePoints :=
  [(0x3400, 0x4DBF), (0x4E00, 0x9FFF), (0x20000, 0x2A6DF), (0x2A700, 0x2B738),
   (0x2B740, 0x2B81D), (0x2B820, 0x2CEA1), (0x2CEB0, 0x2EBE0), (0x30000, 0x3134A)]

/-- The code point of the ideograph whose code point is written in four or five digits,
with its letters in upper case. -/
def ideograph? (digits : List Char) : Option Nat :=
  let code := numeral 16 digits
  if (digits.length = 4 || digits.length = 5)
      && digits.all (fun c => isHexDigit c && !c.isLower) && unifiedIdeographs.holds code then
    some code
  else none

/-! ### Names that end in numbers -/

/-- The characters whose names end in their code points, by the beginnings of the
names. -/
def codedNames : List (String × CodePoints) :=
  [("CJK COMPATIBILITY IDEOGRAPH-",
     [(0xF900, 0xFA6D), (0xFA70, 0xFAD9), (0x2F800, 0x2FA1D)]),
   ("KHITAN SMALL SCRIPT CHARACTER-", [(0x18B00, 0x18CD5)]),
   ("NUSHU CHARACTER-", [(0x1B170, 0x1B2FB)])]

/-- The code point that a name ends in. -/
def coded? (name : List Char) : Option Nat :=
  codedNames.findSome? fun (beginning, codes) =>
    (beginning.toList.isPrefixOf? name).bind fun digits =>
      let code := numeral 16 digits
      if digits.all isHexDigit && codes.holds code
          && (Nat.toDigits 16 code).map Char.toUpper = digits then some code
      else none

/-- Characters whose names end in consecutive numbers. -/
structure NumberedRun where
  first : Nat
  beginning : String
  least : Nat
  count : Nat
  width : Nat
deriving DecidableEq, Repr

/-- The numbered characters: variation selectors and parts of ideographs. -/
def numberedNames : List NumberedRun :=
  [⟨0xFE00, "VARIATION SELECTOR-", 1, 16, 1⟩, ⟨0xE0100, "VARIATION SELECTOR-", 17, 240, 2⟩,
   ⟨0xFE00, "VS", 1, 16, 1⟩, ⟨0xE0100, "VS", 17, 240, 2⟩,
   ⟨0x18800, "TANGUT COMPONENT-", 1, 768, 3⟩]

/-- The code point of a numbered character of a run: its number has no zeros in front
beyond those that fill the width. -/
def NumberedRun.codePoint? (run : NumberedRun) (name : List Char) : Option Nat :=
  (run.beginning.toList.isPrefixOf? name).bind fun digits =>
    let number := numeral 10 digits
    let plain := Nat.toDigits 10 number
    if digits = List.replicate (run.width - plain.length) '0' ++ plain
        && run.least ≤ number && number < run.least + run.count then
      some (run.first + (number - run.least))
    else none

/-! ### All names -/

/-- All tables of names. -/
def nameTables : List (List NameRun) :=
  [europeanNames, middleEasternNames, southAsianNames, regionalNames, phoneticNames,
   symbolNames, operatorNames, eastAsianNames, presentationFormNames, historicNames,
   hieroglyphNames, musicalNames, pictographNames, aliasNames]

/-- The code point of the character that the tables, numbered or not, give a name in
upper case to. -/
def tabled? (name : List Char) : Option Nat :=
  (nameTables.findSome? fun runs => runs.findSome? (·.codePoint? name))
    <|> coded? name <|> numberedNames.findSome? (·.codePoint? name)

/-- The code point of the character that has a name. -/
def codePointNamed? (name : List Char) : Option Nat :=
  match "HANGUL SYLLABLE ".toList.isPrefixOf? name with
  | some parts => syllable? parts
  | none =>
    match "CJK UNIFIED IDEOGRAPH-".toList.isPrefixOf? name with
    | some digits => ideograph? digits
    | none => tabled? (name.map Char.toUpper)

/-! ### Examples -/

example : syllable? "GGAELG".toList = some 0xAE71 := by decide +kernel

example : ideograph? "4E00".toList = some 0x4E00 := by decide +kernel

end ConceptModel.Text

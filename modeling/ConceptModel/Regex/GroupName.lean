import ConceptModel.Text.Identifier

/-!
# Names of groups

The names that groups of a regular expression may have: letters, digits, marks and
underscores as in identifiers, with the exceptions that keep a name an identifier in
every normal form of its text.
-/

namespace ConceptModel.Regex

open Text (CodePoints identifierStarts identifierExtensions)

/-- Characters that may start a name although they are no letters. -/
def otherStarts : CodePoints := [(0x1885, 0x1886), (0x2118, 0x2118), (0x212E, 0x212E)]

/-- Characters that may follow in a name although they are no letters, digits or marks. -/
def otherParts : CodePoints :=
  [(0xB7, 0xB7), (0x387, 0x387), (0x1369, 0x1371), (0x19DA, 0x19DA), (0x2118, 0x2118),
   (0x212E, 0x212E)]

/-- Letters that stand for texts with blanks, or are signs by their use. -/
def barredParts : CodePoints :=
  [(0x37A, 0x37A), (0x2E2F, 0x2E2F), (0xFC5E, 0xFC63), (0xFDFA, 0xFDFB), (0xFE70, 0xFE70),
   (0xFE72, 0xFE72), (0xFE74, 0xFE74), (0xFE76, 0xFE76), (0xFE78, 0xFE78), (0xFE7A, 0xFE7A),
   (0xFE7C, 0xFE7C), (0xFE7E, 0xFE7E)]

/-- Letters that stand for texts that start with a mark. -/
def barredStarts : CodePoints := [(0xE33, 0xE33), (0xEB3, 0xEB3), (0xFF9E, 0xFF9F)]

/-- Whether a character may start a name. -/
def isNameStart (c : Char) : Bool :=
  let code := c.toNat
  c = '_' || otherStarts.holds code
    || (identifierStarts.holds code && !barredParts.holds code && !barredStarts.holds code)

/-- Whether a character may follow in a name. -/
def isNamePart (c : Char) : Bool :=
  let code := c.toNat
  otherParts.holds code
    || ((identifierStarts.holds code || identifierExtensions.holds code)
      && !barredParts.holds code)

/-- Whether characters form the name of a group. -/
def isGroupName : List Char → Bool
  | [] => false
  | c :: rest => isNameStart c && rest.all isNamePart

/-! ### Examples -/

example : isGroupName ['_', '1'] = true := by decide +kernel

example : isGroupName ['1'] = false := by decide +kernel

end ConceptModel.Regex

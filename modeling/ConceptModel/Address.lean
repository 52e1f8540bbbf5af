import ConceptModel.Text.Digit
import ConceptModel.Text.Split

/-!
# Addresses in brackets

The hosts that a URL may write in brackets: an address of eight groups of hexadecimal
digits, or one of a future version.  Two colons stand for a run of zero groups, four
decimal numbers may take the place of the last two groups, and a zone may follow a
percent sign.
-/

namespace ConceptModel.Address

open Text

/-- Whether characters are a decimal number below 256 without zeros in front. -/
def isOctet (cs : List Char) : Bool :=
  !cs.isEmpty && cs.length ≤ 3 && cs.all Char.isDigit && (cs = ['0'] || cs.head? ≠ some '0')
    && numeral 10 cs < 256

/-- Whether characters are four decimal numbers with points between. -/
def isQuad (cs : List Char) : Bool :=
  let parts := splitAll '.' cs
  parts.length = 4 && parts.all isOctet

/-- Whether characters are a group of one to four hexadecimal digits. -/
def isGroup (cs : List Char) : Bool :=
  !cs.isEmpty && cs.length ≤ 4 && cs.all isHexDigit

/-- The groups that parts between colons write; a quad at the end writes two. -/
def groups? (parts : List (List Char)) : Option (List (List Char)) :=
  match parts.getLast? with
  | none => none
  | some last =>
    if last.contains '.' then
      if isQuad last then some (parts.dropLast ++ [['0'], ['0']]) else none
    else some parts

/-- The number of groups on one side of a gap: none when nothing stands there. -/
def side? (parts : List (List Char)) : Option Nat :=
  if parts = [[]] then some 0
  else if parts.all isGroup then some parts.length
  else none

/-- Whether groups make up an address: there are eight, or a gap between at most
seven. -/
def areGroups (parts : List (List Char)) : Bool :=
  match parts with
  | [] => false
  | first :: rest =>
    match cutFirst [] rest with
    | (before, some after) =>
      if after.isEmpty then parts.length = 8 && parts.all isGroup
      else
        match side? (first :: before), side? after with
        | some m, some n => m + n ≤ 7
        | _, _ => false
    | (_, none) => parts.length = 8 && parts.all isGroup

/-- Whether characters are an address of eight groups, which a zone may follow. -/
def isGrouped (cs : List Char) : Bool :=
  let (address, zone) := cutFirst '%' cs
  let parts := splitAll ':' address
  zone.all (fun z => !z.isEmpty && !z.contains '%') && 3 ≤ parts.length
    && (groups? parts).any areGroups

/-- Whether characters are an address of a future version. -/
def isFuture (cs : List Char) : Bool :=
  match cs with
  | 'v' :: rest =>
    let (version, address) := rest.span isHexDigit
    !version.isEmpty && address.head? = some '.' && 2 ≤ address.length
  | _ => false

/-- Whether characters may stand in the brackets of a URL. -/
def isBracketable (cs : List Char) : Bool :=
  if cs.head? = some 'v' then isFuture cs else isGrouped cs

/-! ### Examples -/

example : isBracketable "::ffff:1.2.3.4".toList = true := by decide +kernel

example : isBracketable "1::2::3".toList = false := by decide +kernel

end ConceptModel.Address

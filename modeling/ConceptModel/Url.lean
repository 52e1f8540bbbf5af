import ConceptModel.Address
import ConceptModel.Text.LowerCase
import ConceptModel.Text.Split

/-!
# URLs

The parts of a URL, and the text that they make up.  Reading is lenient: a text that
is not a URL reads as one with no more than a path.  It refuses only an authority
whose brackets do not hold an address, and one that compatibility normalization would
turn into several parts.
-/

namespace ConceptModel

open Text

/-- The parts of a URL: what precedes the first colon, what stands between `//` and
the path, the path, what follows `?`, and what follows `#`. -/
structure Url where
  scheme : String
  authority : String
  path : String
  query : String
  fragment : String
deriving DecidableEq, Repr

namespace Url

/-- Whether a character is an ASCII letter. -/
def isAsciiLetter (c : Char) : Bool := ('a' ≤ c && c ≤ 'z') || ('A' ≤ c && c ≤ 'Z')

/-- Whether a character may follow in a scheme. -/
def isSchemePart (c : Char) : Bool :=
  isAsciiLetter c || ('0' ≤ c && c ≤ '9') || c = '+' || c = '-' || c = '.'

/-- The scheme of a text, in lower case, and what follows its colon; an empty scheme
when the text has none. -/
def cutScheme (cs : List Char) : List Char × List Char :=
  match cutFirst ':' cs with
  | (first :: rest, some after) =>
    if isAsciiLetter first && rest.all isSchemePart then
      ((first :: rest).map Char.toLower, after)
    else ([], cs)
  | _ => ([], cs)

/-- The authority of a text that starts with `//`, up to a slash, a question mark or a
number sign, and what follows. -/
def cutAuthority (cs : List Char) : List Char × List Char :=
  match cs with
  | '/' :: '/' :: rest => rest.span fun c => !(c = '/' || c = '?' || c = '#')
  | _ => ([], cs)

/-- Characters whose compatibility normalization holds one of `/`, `?`, `#`, `@` and
`:`. -/
def disguisedDelimiters : CodePoints :=
  [(0x2047, 0x2049), (0x2100, 0x2101), (0x2105, 0x2106), (0x2A74, 0x2A74), (0xFE13, 0xFE13),
   (0xFE16, 0xFE16), (0xFE55, 0xFE56), (0xFE5F, 0xFE5F), (0xFE6B, 0xFE6B), (0xFF03, 0xFF03),
   (0xFF0F, 0xFF0F), (0xFF1A, 0xFF1A), (0xFF1F, 0xFF20)]

/-- Whether the host of an authority is an address in brackets, which only a port may
follow. -/
def isBracketed (authority : List Char) : Bool :=
  let named := afterLast '@' authority
  match cutFirst '[' named with
  | (before, some bracketed) =>
    let (host, after) := cutFirst ']' bracketed
    before.isEmpty && after.all (fun port => port.isEmpty || port.head? = some ':')
      && Address.isBracketable host
  | (_, none) => Address.isBracketable (cutFirst ':' named).1

/-- Whether an authority is refused: it has one bracket without the other, brackets that
hold no address, or a character that is a delimiter in disguise. -/
def isMalformed (authority : List Char) : Bool :=
  (authority.contains '[' != authority.contains ']')
    || (authority.contains '[' && !isBracketed authority)
    || authority.any fun c => disguisedDelimiters.holds c.toNat

/-- The text without controls and blanks in front, and without tabs and line breaks. -/
def cleaned (cs : List Char) : List Char :=
  (cs.dropWhile fun c => c ≤ ' ').filter fun c => !(c = '\t' || c = '\r' || c = '\n')

/-- The parts of the URL that a text holds, or `none` when its authority is
malformed. -/
def ofString? (s : String) : Option Url :=
  let (scheme, rest) := cutScheme (cleaned s.toList)
  let (authority, rest) := cutAuthority rest
  if isMalformed authority then none
  else
    let (rest, fragment) := cutFirst '#' rest
    let (path, query) := cutFirst '?' rest
    some {
      scheme := String.ofList scheme
      authority := String.ofList authority
      path := String.ofList path
      query := String.ofList (query.getD [])
      fragment := String.ofList (fragment.getD []) }

/-- Schemes whose URLs have an authority, so that an empty one is written too. -/
def hierarchicalSchemes : List String :=
  ["ftp", "http", "gopher", "nntp", "telnet", "imap", "wais", "file", "mms", "https", "shttp",
   "snews", "prospero", "rtsp", "rtspu", "rsync", "svn", "svn+ssh", "sftp", "nfs", "git",
   "git+ssh", "ws", "wss"]

/-- The text of a URL; an empty query or fragment leaves no mark. -/
def toText (u : Url) : String :=
  let path :=
    if u.authority ≠ "" ∨ (u.scheme ∈ hierarchicalSchemes ∧ !u.path.startsWith "//") then
      "//" ++ u.authority
        ++ (if u.path ≠ "" ∧ !u.path.startsWith "/" then "/" ++ u.path else u.path)
    else u.path
  (if u.scheme = "" then "" else u.scheme ++ ":") ++ path
    ++ (if u.query = "" then "" else "?" ++ u.query)
    ++ (if u.fragment = "" then "" else "#" ++ u.fragment)

/-- The host of the authority, without user and port, in lower case up to a percent
sign; `none` when it is empty. -/
def host? (u : Url) : Option String :=
  let named := afterLast '@' u.authority.toList
  let host :=
    match cutFirst '[' named with
    | (_, some bracketed) => (cutFirst ']' bracketed).1
    | (_, none) => (cutFirst ':' named).1
  if host.isEmpty then none
  else
    match cutFirst '%' host with
    | (name, some zone) => some (lower (String.ofList name) ++ "%" ++ String.ofList zone)
    | (name, none) => some (lower (String.ofList name))

/-! ### Examples -/

example :
    (ofString? " HTTP://Example.com/a?b#c").map toText = some "http://Example.com/a?b#c" := by
  decide +kernel

example : (ofString? "http://me@EXAMPLE.com:80/a").bind host? = some "example.com" := by
  decide +kernel

example : ofString? "http://[::1/a" = none := by decide +kernel

end Url

end ConceptModel

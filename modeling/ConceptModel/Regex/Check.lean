import ConceptModel.Regex.GroupName
import ConceptModel.Regex.Survey
import ConceptModel.Regex.Symbol
import ConceptModel.Text.Integer

/-!
# Regular expressions

Which texts are regular expressions.  A text is read from left to right, with a survey
of what it has held so far; every part is read with its width, because what looks back
must match texts of one length.
-/

namespace ConceptModel.Regex

open Text (digitLimit integer? numeral)

/-! ### Flags -/

/-- The letters of flags. -/
def flagLetters : List Char := ['i', 'L', 'm', 's', 'x', 'a', 't', 'u']

/-- Flags that are turned on, and what ended them; two kinds of text cannot be chosen at
once. -/
def flagsOn? : List Char → List Symbol → Option (List Char × Char × List Symbol)
  | flags, .plain c :: rest =>
    if c = ')' || c = '-' || c = ':' then some (flags, c, rest)
    else if !flagLetters.contains c || c = 'L' then none
    else if (c = 'a' && flags.contains 'u') || (c = 'u' && flags.contains 'a') then none
    else flagsOn? (c :: flags) rest
  | _, _ => none

/-- Flags that are turned off, up to a colon. -/
def flagsOff? : List Char → List Symbol → Option (List Char × List Symbol)
  | flags, .plain c :: rest =>
    if c = ':' then if flags.isEmpty then none else some (flags, rest)
    else if !flagLetters.contains c || ['L', 'a', 'u', 't'].contains c then none
    else flagsOff? (c :: flags) rest
  | _, _ => none

/-- The flags of a group: those turned on and off, whether they hold for the whole
pattern, and what follows. -/
def flags? (ss : List Symbol) : Option (List Char × List Char × Bool × List Symbol) :=
  match flagsOn? [] ss with
  | some (on, ')', rest) => if on.isEmpty then none else some (on, [], true, rest)
  | some (on, ':', rest) =>
    if on.isEmpty || on.contains 't' then none else some (on, [], false, rest)
  | some (on, _, rest) =>
    if on.contains 't' then none
    else
      match flagsOff? [] rest with
      | some (off, after) => if on.any off.contains then none else some (on, off, false, after)
      | none => none
  | none => none

/-! ### Repetitions -/

/-- The digits of the least and of the greatest number of repetitions, and what follows
the braces that write them; none when the braces write something else. -/
def counts? (ss : List Symbol) : Option (List Char × List Char × List Symbol) :=
  let (low, rest) := takePlain Char.isDigit ss.length ss
  let (high, rest) :=
    match rest with
    | .plain ',' :: rest => takePlain Char.isDigit rest.length rest
    | _ => (low, rest)
  match rest with
  | .plain c :: after =>
    if c = '}' && ss.head? ≠ some (.plain '}') then some (low, high, after) else none
  | _ => none

/-- The number of repetitions that digits write, or the given one when there are none. -/
def count (absent : Nat) (digits : List Char) : Except Fault Nat :=
  if digits.isEmpty then .ok absent
  else if digitLimit < digits.length then .error .tooManyDigits
  else if limit ≤ numeral 10 digits then .error .tooManyRepetitions
  else .ok (numeral 10 digits)

/-- The sign that a repetition may end with is left out. -/
def afterModifier : List Symbol → List Symbol
  | .plain '?' :: rest => rest
  | .plain '+' :: rest => rest
  | ss => ss

/-- What the last part of a sequence is to a repetition that follows it. -/
inductive Last where
  /-- There is none, or it is a place in the text: it cannot be repeated. -/
  | place
  /-- It is a repetition: it cannot be repeated again. -/
  | repetition
  /-- Any other part. -/
  | part
deriving DecidableEq, Repr

/-- A sequence of parts as far as it has been read: the width of all but the last, the
last, and its width. -/
structure Sequence where
  before : Width := .zero
  last : Last := .place
  width : Width := .zero
  isEmpty : Bool := true

/-- The width of a whole sequence. -/
def Sequence.total (s : Sequence) : Width := s.before.add s.width

/-- The sequence with one more part. -/
def Sequence.push (s : Sequence) (last : Last) (width : Width) : Sequence :=
  ⟨s.total, last, width, false⟩

/-- The sequence with its last part repeated. -/
def Sequence.repeated (s : Sequence) (low high : Nat) : Except Fault Sequence := do
  demand (s.last = .part)
  return { s with last := .repetition, width := s.width.times low high }

/-! ### Patterns -/

/-- What follows a comment in parentheses. -/
def afterComment? : List Symbol → Option (List Symbol)
  | [] => none
  | .plain ')' :: rest => some rest
  | _ :: rest => afterComment? rest

/-- What follows a comment that ends with its line. -/
def afterLine : List Symbol → List Symbol
  | .plain '\n' :: rest => rest
  | .plain _ :: rest => afterLine rest
  | .escaped _ :: rest => afterLine rest
  | ss => ss

/-- Whether a character is left out of a verbose pattern. -/
def isVerboseBlank (c : Char) : Bool :=
  [' ', '\t', '\n', '\r', '\x0b', '\x0c'].contains c

/-- What has been read of a pattern: its width, the survey, and what follows. -/
abbrev Reading := Width × Survey × List Symbol

/-- What follows the parenthesis that closes a group. -/
def afterClosing (r : Reading) : Except Fault Reading :=
  match r with
  | (w, g, .plain ')' :: rest) => .ok (w, g, rest)
  | _ => .error .malformed

/-- The least number that no group can have. -/
def groupLimit : Nat := 1073741823

/-- The group that a condition asks for by its name or its number. -/
def conditionGroup (g : Survey) (name : List Char) : Except Fault (Nat × Survey) :=
  if isGroupName name then (orMalformed (g.names.lookup name)).map fun number => (number, g)
  else
    match integer? name with
    | some (.ofNat number) =>
      if number = 0 || groupLimit ≤ number then .error .malformed
      else .ok (number, { g with asked := number :: g.asked })
    | _ => .error .malformed

mutual

/-- Alternatives, up to a closing parenthesis or the end.  On the top level, flags at the
start of the first of them hold for all. -/
def alternatives : Nat → Bool → Bool → Survey → List Symbol → Except Fault Reading
  | 0, _, _, _, _ => .error .malformed
  | fuel + 1, top, verbose, g, ss => do
    let (w, g, rest) ← sequence fuel top verbose {} g ss
    others fuel top verbose w g rest

/-- The alternatives after those already read, if there are any. -/
def others : Nat → Bool → Bool → Width → Survey → List Symbol → Except Fault Reading
  | 0, _, _, _, _, _ => .error .malformed
  | fuel + 1, top, verbose, w, g, .plain '|' :: rest => do
    let (v, g, rest) ← sequence fuel false (if top then g.isVerbose else verbose) {} g rest
    others fuel top verbose (w.either v) g rest
  | _ + 1, _, _, w, g, rest => .ok (w, g, rest)

/-- A sequence of parts after those already read, up to a bar, a closing parenthesis or
the end. -/
def sequence : Nat → Bool → Bool → Sequence → Survey → List Symbol → Except Fault Reading
  | 0, _, _, _, _, _ => .error .malformed
  | _ + 1, _, _, s, g, [] => .ok (s.total, g, [])
  | _ + 1, _, _, _, _, .dangling :: _ => .error .malformed
  | fuel + 1, first, verbose, s, g, .escaped c :: rest => do
    match ← orMalformed (escape? c rest) with
    | (.boundary, rest) => sequence fuel first verbose (s.push .place .zero) g rest
    | (.group number, rest) => do
      let w ← orMalformed (g.width? number)
      sequence fuel first verbose (s.push .part w) g rest
    | (_, rest) => sequence fuel first verbose (s.push .part .single) g rest
  | fuel + 1, first, verbose, s, g, .plain c :: rest =>
    if c = '|' || c = ')' then .ok (s.total, g, .plain c :: rest)
    else if verbose && isVerboseBlank c then sequence fuel first verbose s g rest
    else if verbose && c = '#' then sequence fuel first verbose s g (afterLine rest)
    else if c = '[' then do
      let rest ← orMalformed (class? rest)
      sequence fuel first verbose (s.push .part .single) g rest
    else if c = '?' then repetition fuel first verbose s g 0 1 rest
    else if c = '*' then repetition fuel first verbose s g 0 limit rest
    else if c = '+' then repetition fuel first verbose s g 1 limit rest
    else if c = '{' then
      match counts? rest with
      | none => sequence fuel first verbose (s.push .part .single) g rest
      | some (_, _, .dangling :: _) => .error .malformed
      | some (low, high, after) => do
        let least ← count 0 low
        let most ← count limit high
        demand (least ≤ most)
        repetition fuel first verbose s g least most after
    else if c = '(' then group fuel first verbose s g rest
    else if c = '^' || c = '$' then sequence fuel first verbose (s.push .place .zero) g rest
    else sequence fuel first verbose (s.push .part .single) g rest

/-- A sequence from the repetition of its last part on. -/
def repetition :
    Nat → Bool → Bool → Sequence → Survey → Nat → Nat → List Symbol → Except Fault Reading
  | 0, _, _, _, _, _, _, _ => .error .malformed
  | fuel + 1, first, verbose, s, g, low, high, rest => do
    let s ← s.repeated low high
    sequence fuel first verbose s { g with repeats := true } (afterModifier rest)

/-- A sequence from a group on, after its opening parenthesis. -/
def group : Nat → Bool → Bool → Sequence → Survey → List Symbol → Except Fault Reading
  | 0, _, _, _, _, _ => .error .malformed
  | fuel + 1, first, verbose, s, g, ss =>
    match ss with
    | .plain '?' :: .plain 'P' :: .plain '<' :: rest => do
      let (name, rest) ← orMalformed (takeName? '>' rest)
      demand (isGroupName name)
      capture fuel first verbose s g (some name) rest
    | .plain '?' :: .plain 'P' :: .plain '=' :: rest => do
      let (name, rest) ← orMalformed (takeName? ')' rest)
      let w ← orMalformed ((g.names.lookup name).bind g.width?)
      sequence fuel first verbose (s.push .part w) g rest
    | .plain '?' :: .plain ':' :: rest => enclosed fuel first verbose verbose s g rest
    | .plain '?' :: .plain '>' :: rest => enclosed fuel first verbose verbose s g rest
    | .plain '?' :: .plain '#' :: rest => do
      let rest ← orMalformed (afterComment? rest)
      sequence fuel first verbose s g rest
    | .plain '?' :: .plain '=' :: rest | .plain '?' :: .plain '!' :: rest => do
      let (_, g, rest) ← (alternatives fuel false verbose g rest).bind afterClosing
      sequence fuel first verbose (s.push .part .zero) g rest
    | .plain '?' :: .plain '<' :: .plain c :: rest => do
      demand (c = '=' || c = '!')
      let (w, h, rest) ← (alternatives fuel false verbose g.enterBehind rest).bind afterClosing
      sequence fuel first verbose (s.push .part .zero) (h.leaveBehind g w) rest
    | .plain '?' :: .plain '(' :: rest => condition fuel first verbose s g rest
    | .plain '?' :: rest => do
      let (on, off, whole, rest) ← orMalformed (flags? rest)
      if whole then
        demand (first && s.isEmpty)
        let g := { g with flags := on ++ g.flags }
        sequence fuel first g.isVerbose s g rest
      else
        let inner := (verbose || on.contains 'x') && !off.contains 'x'
        enclosed fuel first verbose inner s g rest
    | _ => capture fuel first verbose s g none ss

/-- A sequence from the contents of a group without a number on. -/
def enclosed :
    Nat → Bool → Bool → Bool → Sequence → Survey → List Symbol → Except Fault Reading
  | 0, _, _, _, _, _, _ => .error .malformed
  | fuel + 1, first, verbose, inner, s, g, ss => do
    let (w, g, rest) ← (alternatives fuel false inner g ss).bind afterClosing
    sequence fuel first verbose (s.push .part w) g rest

/-- A sequence from the contents of a group with a number on, which may have a name. -/
def capture :
    Nat → Bool → Bool → Sequence → Survey → Option (List Char) → List Symbol →
      Except Fault Reading
  | 0, _, _, _, _, _, _ => .error .malformed
  | fuel + 1, first, verbose, s, g, name, ss => do
    let g ← orMalformed (g.push? name)
    let (w, h, rest) ← (alternatives fuel false verbose g ss).bind afterClosing
    sequence fuel first verbose (s.push .part w) (h.close g.opened w) rest

/-- A sequence from a condition on, after the parenthesis of the group that it asks
for: one or two parts, the second of which is empty by default. -/
def condition : Nat → Bool → Bool → Sequence → Survey → List Symbol → Except Fault Reading
  | 0, _, _, _, _, _ => .error .malformed
  | fuel + 1, first, verbose, s, g, ss => do
    let (name, rest) ← orMalformed (takeName? ')' ss)
    let (number, g) ← conditionGroup g name
    demand (g.isVisible number)
    match ← sequence fuel false verbose {} g rest with
    | (w, g, .plain '|' :: rest) => do
      let (v, g, rest) ← (sequence fuel false verbose {} g rest).bind afterClosing
      sequence fuel first verbose (s.push .part (w.either v)) g rest
    | (w, g, rest) => do
      let (_, g, rest) ← afterClosing (w, g, rest)
      sequence fuel first verbose (s.push .part (w.either .zero)) g rest

end

/-- Whether a text can be used as a regular expression, or why it cannot.  Every symbol
takes at most four steps. -/
def check (text : String) : Except Fault Unit := do
  let ss := symbols text.toList
  let (_, g, rest) ← alternatives (4 * ss.length + 4) true false {} ss
  g.checkFlags
  demand rest.isEmpty
  g.conclude

/-! ### Examples -/

example : (check "^[a-z]+(?P<n>a){2,3}?$").isOk = true := by decide +kernel

example : (check "(?<=a|bc)d").isOk = false := by decide +kernel

end ConceptModel.Regex

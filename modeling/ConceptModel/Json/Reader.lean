import ConceptModel.Json.Token

/-!
# Reading JSON texts

The value that a JSON text denotes.  A key that occurs twice in an object keeps the
place of its first occurrence and the value of its last.  The first fault of a text, from
left to right, is the one that counts.
-/

namespace ConceptModel.Json

/-- Why a text cannot be read. -/
inductive ReadFault where
  /-- It is no JSON text. -/
  | malformed
  /-- An integer has too many digits. -/
  | tooManyDigits
deriving DecidableEq, Repr

/-- The least natural number that has too many digits. -/
def integerBound : Nat := Nat.pow 10 Text.digitLimit

/-- A value that a token writes, unless it is an integer with too many digits. -/
def checkDigits (v : Json) : Except ReadFault Json :=
  match v with
  | number (.int i) => if i.natAbs < integerBound then .ok v else .error .tooManyDigits
  | _ => .ok v

mutual

/-- The value at the start of a list of tokens, and what follows. -/
def readValue : Nat → List Token → Except ReadFault (Json × List Token)
  | 0, _ => .error .malformed
  | fuel + 1, tokens =>
    match tokens with
    | .string s :: rest => .ok (string s, rest)
    | .atom v :: rest => (checkDigits v).map fun v => (v, rest)
    | .openArray :: .closeArray :: rest => .ok (array [], rest)
    | .openArray :: rest =>
      (readElements fuel rest).map fun (vs, after) => (array vs, after)
    | .openObject :: .closeObject :: rest => .ok (object [], rest)
    | .openObject :: rest =>
      (readMembers fuel [] rest).map fun (fields, after) => (object fields, after)
    | _ => .error .malformed

/-- The elements up to the end of an array, and what follows. -/
def readElements : Nat → List Token → Except ReadFault (List Json × List Token)
  | 0, _ => .error .malformed
  | fuel + 1, tokens =>
    match readValue fuel tokens with
    | .error e => .error e
    | .ok (v, .closeArray :: rest) => .ok ([v], rest)
    | .ok (v, .comma :: rest) =>
      (readElements fuel rest).map fun (vs, after) => (v :: vs, after)
    | .ok _ => .error .malformed

/-- The fields of an object after those already read, up to its end, and what
follows. -/
def readMembers : Nat → List (String × Json) → List Token →
    Except ReadFault (List (String × Json) × List Token)
  | 0, _, _ => .error .malformed
  | fuel + 1, fields, tokens =>
    match tokens with
    | .string key :: .colon :: rest =>
      match readValue fuel rest with
      | .error e => .error e
      | .ok (v, .closeObject :: rest) => .ok (setField key v fields, rest)
      | .ok (v, .comma :: rest) => readMembers fuel (setField key v fields) rest
      | .ok _ => .error .malformed
    | _ => .error .malformed

end

/-- The value of a JSON text.  Every token takes at most two steps. -/
def ofString (s : String) : Except ReadFault Json :=
  let tokens := tokens (s.length + 1) s.toList
  match readValue (2 * tokens.length + 2) tokens with
  | .error e => .error e
  | .ok (v, []) => .ok v
  | .ok _ => .error .malformed

/-! ### Examples -/

example : (ofString "\x7b\"a\": 1, \"b\": [], \"a\": -2\x7d").toOption =
    some (object [("a", number (.int (-2))), ("b", array [])]) := by
  decide +kernel

example : (ofString "[1,]").toOption = none := by decide +kernel

end ConceptModel.Json

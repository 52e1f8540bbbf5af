import ConceptModel.Dialect.Keyword
import ConceptModel.Json.Distinct
import ConceptModel.Regex.Check

/-!
# Checking documents

Whether a JSON value is a schema of a draft: every keyword obeys its rule, at every
depth, and stands beside those that it needs.  What is wrong is found in the order of
the keywords, and the first finding decides.
-/

namespace ConceptModel.Dialect

/-! ### Single values -/

/-- Whether a value is an integer to a draft, and passes a test. -/
def isIntegerWith (d : Dialect) (test : Int → Bool) : Json → Bool
  | .number (.int n) => test n
  | .number (.double x) =>
    d.hasIntegralDoubles &&
      match x.toInt? with
      | some n => test n
      | none => false
  | _ => false

/-- Whether a value is a number, and not one that is at most zero. -/
def isPositive : Json → Bool
  | .number x => !x.atMost 0
  | _ => false

/-- Whether a value is a number. -/
def isNumber : Json → Bool
  | .number _ => true
  | _ => false

/-- Whether a value is a string that passes a test. -/
def isTextWith (test : String → Bool) : Json → Bool
  | .string s => test s
  | _ => false

/-- Whether a value is an array whose elements pass a test. -/
def isListWith (test : List Json → Bool) : Json → Bool
  | .array vs => test vs
  | _ => false

/-- Whether a value is an object whose fields pass a test. -/
def isObjectWith (test : List (String × Json) → Bool) : Json → Bool
  | .object fields => test fields
  | _ => false

/-- The names of the types. -/
def typeNames : List String :=
  ["array", "boolean", "integer", "null", "number", "object", "string"]

/-- Whether a value is the name of a type. -/
def isTypeName : Json → Bool := isTextWith typeNames.contains

/-- Whether a text has no number sign, or one at its end; a line break may follow. -/
def isUnfragmented (s : String) : Bool :=
  match s.toList.dropWhile (· ≠ '#') with
  | [] | ['#'] | ['#', '\n'] => true
  | _ => false

/-- Whether a character may start an anchor. -/
def isAnchorStart (underscored : Bool) (c : Char) : Bool :=
  Url.isAsciiLetter c || (underscored && c = '_')

/-- Whether a character may follow in an anchor; a colon only in the older form. -/
def isAnchorPart (underscored : Bool) (c : Char) : Bool :=
  Url.isAsciiLetter c || c.isDigit || c = '-' || c = '.' || c = '_'
    || (!underscored && c = ':')

/-- Whether a text names an anchor; a line break may follow. -/
def isAnchor (underscored : Bool) (s : String) : Bool :=
  match s.toList with
  | [] => false
  | c :: rest =>
    isAnchorStart underscored c &&
      match rest.dropWhile (isAnchorPart underscored) with
      | [] | ['\n'] => true
      | _ => false

/-- Whether a value is an array of distinct strings, nonempty if so given. -/
def isNames (nonempty : Bool) : Json → Bool :=
  isListWith fun vs =>
    (!nonempty || !vs.isEmpty) && vs.all Json.isString && Json.allDistinct vs

/-- Whether a value obeys a rule that speaks neither of schemas nor of patterns. -/
def Rule.admits (d : Dialect) : Rule → Json → Bool
  | text, v => v.isString
  | unfragmented, v => isTextWith isUnfragmented v
  | anchor underscored, v => isTextWith (isAnchor underscored) v
  | flag, v => v.isBool
  | number, v => isNumber v
  | positive, v => isPositive v
  | integer, v => d.isIntegerWith (fun _ => true) v
  | count, v => d.isIntegerWith (0 ≤ ·) v
  | list, v => v.isArray
  | distinctValues, v => isListWith (fun vs => !vs.isEmpty && Json.allDistinct vs) v
  | types, v =>
    isTypeName v
      || isListWith (fun vs => !vs.isEmpty && vs.all isTypeName && Json.allDistinct vs) v
  | names nonempty, v => isNames nonempty v
  | namesByKey, v => isObjectWith (·.all fun (_, w) => isNames false w) v
  | flagsByKey, v => isObjectWith (·.all fun (_, w) => w.isBool) v
  | _, _ => true

/-! ### Findings -/

/-- What a check finds wrong with a value. -/
inductive Finding where
  /-- A rule is broken. -/
  | violation
  /-- A pattern is a regular expression, but cannot be used: the check ends here. -/
  | unusable (fault : Regex.Fault)
deriving DecidableEq, Repr

/-- Whether a check ends with a finding, whatever else it looked for. -/
def Finding.isFinal : Finding → Bool
  | violation => false
  | unusable _ => true

/-- A violation, unless a condition holds. -/
def ensure (condition : Bool) : List Finding := if condition then [] else [.violation]

/-- What is found in a pattern. -/
def patternFindings (s : String) : List Finding :=
  match Regex.check s with
  | .ok _ => []
  | .error .malformed => [.violation]
  | .error fault => [.unusable fault]

/-- What is found in a value that should obey a rule that does not speak of schemas. -/
def Rule.findings (d : Dialect) : Rule → Json → List Finding
  | regex, .string s => patternFindings s
  | regex, _ => [.violation]
  | r, v => ensure (r.admits d v)

/-- What is found when one of several ways to read a value must be free of findings.
They are tried in order, and each to its end: a final finding ends them all. -/
def firstClear : List (List Finding) → List Finding
  | [] => [.violation]
  | found :: rest =>
    if found.isEmpty then []
    else
      match found.find? Finding.isFinal with
      | some f => [f]
      | none => firstClear rest

/-! ### Schemas -/

mutual

/-- What is found in a value that should be a schema of a draft, in the order of the
keywords. -/
def findings (d : Dialect) : Json → List Finding
  | .object fields =>
    let found := fieldFindings d fields
    (d.rules.flatMap fun (keyword, _) => (found.lookup keyword).getD [])
      ++ ensure (d.needs.all fun (keyword, other) =>
        (Json.lookup? keyword fields).isNone || (Json.lookup? other fields).isSome)
  | .bool _ => ensure d.hasFlagSchemas
  | _ => [.violation]

/-- What is found in the values of fields, by keyword. -/
def fieldFindings (d : Dialect) : List (String × Json) → List (String × List Finding)
  | [] => []
  | (keyword, v) :: rest =>
    let found :=
      match d.rule keyword with
      | .schema => findings d v
      | .schemaOrFlag => firstClear [ensure v.isBool, findings d v]
      | .schemas => elementFindings d true v
      | .schemaOrSchemas => firstClear [findings d v, elementFindings d true v]
      | .looseSchemas =>
        if v.isArray then elementFindings d false v else firstClear [findings d v]
      | .textsOrSchemas => if v.isString then [] else mixtureFindings d v
      | .schemasByKey regexKeys => memberFindings d regexKeys v
      | .dependencies nonempty => dependencyFindings d false (isNames nonempty) v
      | .looseDependencies =>
        dependencyFindings d true (isListWith fun vs => vs.all Json.isString) v
      | r => r.findings d v
    (keyword, found) :: fieldFindings d rest

/-- What is found in a value that should be an array of schemas, nonempty if so given. -/
def elementFindings (d : Dialect) (nonempty : Bool) : Json → List Finding
  | .array vs => ensure (!nonempty || !vs.isEmpty) ++ allFindings d vs
  | _ => [.violation]

/-- What is found in elements that should be schemas. -/
def allFindings (d : Dialect) : List Json → List Finding
  | [] => []
  | v :: vs => findings d v ++ allFindings d vs

/-- What is found in a value that should be an array of distinct elements, each a string
or a schema. -/
def mixtureFindings (d : Dialect) : Json → List Finding
  | .array vs => mixedFindings d vs ++ ensure (Json.allDistinct vs)
  | _ => [.violation]

/-- What is found in elements that should be strings or schemas. -/
def mixedFindings (d : Dialect) : List Json → List Finding
  | [] => []
  | v :: vs => firstClear [ensure v.isString, findings d v] ++ mixedFindings d vs

/-- What is found in a value that should be an object whose values are schemas, and whose
keys are regular expressions if so given. -/
def memberFindings (d : Dialect) (regexKeys : Bool) : Json → List Finding
  | .object fields =>
    eachFindings d fields
      ++ if regexKeys then fields.flatMap fun (key, _) => patternFindings key else []
  | _ => [.violation]

/-- What is found in the values of fields that should be schemas. -/
def eachFindings (d : Dialect) : List (String × Json) → List Finding
  | [] => []
  | (_, v) :: rest => findings d v ++ eachFindings d rest

/-- What is found in a value that should be an object whose values are schemas, lists of
names that pass a test, or strings if so given. -/
def dependencyFindings (d : Dialect) (loose : Bool) (test : Json → Bool) :
    Json → List Finding
  | .object fields => eachDependency d loose test fields
  | _ => [.violation]

/-- What is found in the values of fields that should be schemas, lists of names that
pass a test, or strings if so given. -/
def eachDependency (d : Dialect) (loose : Bool) (test : Json → Bool) :
    List (String × Json) → List Finding
  | [] => []
  | (_, v) :: rest =>
    firstClear [ensure (loose && v.isString), findings d v, ensure (test v)]
      ++ eachDependency d loose test rest

end

/-- Whether a value is a schema of a draft. -/
def accepts (d : Dialect) (v : Json) : Bool := (findings d v).isEmpty

/-- Checks that a value is a schema of a draft: the first finding decides. -/
def check (d : Dialect) (v : Json) : Except Failure Unit :=
  match findings d v with
  | [] => .ok ()
  | .violation :: _ => .error .invalidSchema
  | .unusable fault :: _ => .error (.unusablePattern fault)

/-! ### Examples -/

example : accepts draft7 (.object [("type", .string "object")]) = true := by decide +kernel

example : accepts draft4 (.bool true) = false := by decide +kernel

end ConceptModel.Dialect

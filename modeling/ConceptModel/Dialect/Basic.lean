import ConceptModel.Failure
import ConceptModel.Url

/-!
# Dialects

The drafts of JSON Schema, and the choice of the one that a document is written in: the
one its `$schema` names, and the draft of 2019-09 when it names none.
-/

namespace ConceptModel

/-- A draft of JSON Schema. -/
inductive Dialect where
  | draft3
  | draft4
  | draft6
  | draft7
  | draft2019
  | draft2020
deriving DecidableEq, Repr

namespace Dialect

/-- All drafts, oldest first. -/
def all : List Dialect := [draft3, draft4, draft6, draft7, draft2019, draft2020]

/-- The URL that names a draft, without its empty fragment. -/
def url : Dialect → String
  | draft3 => "http://json-schema.org/draft-03/schema"
  | draft4 => "http://json-schema.org/draft-04/schema"
  | draft6 => "http://json-schema.org/draft-06/schema"
  | draft7 => "http://json-schema.org/draft-07/schema"
  | draft2019 => "https://json-schema.org/draft/2019-09/schema"
  | draft2020 => "https://json-schema.org/draft/2020-12/schema"

/-- The name of the validator of a draft. -/
def validatorName : Dialect → String
  | draft3 => "Draft3Validator"
  | draft4 => "Draft4Validator"
  | draft6 => "Draft6Validator"
  | draft7 => "Draft7Validator"
  | draft2019 => "Draft201909Validator"
  | draft2020 => "Draft202012Validator"

/-- The draft used when a document names none that is known. -/
def fallback : Dialect := draft2019

/-- The draft that a `$schema` string names.  Whatever continues the URL of the latest
draft names it; any other string is compared as a URL. -/
def named (uri : String) : Except Failure Dialect :=
  if uri.startsWith draft2020.url then .ok draft2020
  else
    match Url.ofString? uri with
    | none => .error .malformedUrl
    | some u => .ok ((all.find? fun d => d.url = u.toText).getD fallback)

/-- The draft that a document is written in.  A `$schema` that is no string must be
empty, and a document that is neither an object nor a truth value cannot be asked for
one. -/
def ofDocument : Json → Except Failure Dialect
  | .object fields =>
    match Json.lookup? "$schema" fields with
    | none => .ok fallback
    | some (.string uri) => named uri
    | some (.array _) | some (.object _) => .error .wrongKind
    | some v => if v.isTruthy then .error .missingPart else .ok fallback
  | .bool _ => .ok fallback
  | .array elements =>
    if elements.contains (.string "$schema") then .error .wrongKind else .ok fallback
  | .string s =>
    if Text.occursIn "$schema".toList s.toList then .error .wrongKind else .ok fallback
  | .null | .number _ => .error .wrongKind

/-! ### Examples -/

example : (named "http://json-schema.org/draft-07/schema#").toOption = some draft7 := by
  decide +kernel

end Dialect

end ConceptModel

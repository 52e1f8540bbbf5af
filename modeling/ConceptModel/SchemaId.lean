import ConceptModel.Failure
import ConceptModel.Text.Identifier
import ConceptModel.Url

/-!
# Schema identifiers

The namespace and the name of the root type that the `$id` of a schema suggests: its
host reversed and the segments of its path, and its last segment without the endings
`.schema` and `.json`.
-/

namespace ConceptModel

open Text

/-- What the `$id` of a schema suggests. -/
structure SchemaId where
  namespaceName : String
  typeName : String
deriving DecidableEq, Repr

namespace SchemaId

/-- The parts of a text between separators, in reverse order and joined again. -/
def reversed (separator : Char) (cs : List Char) : List Char :=
  [separator].intercalate (splitAll separator cs).reverse

/-- What a URL with a host suggests. -/
def ofUrl (host path : String) : SchemaId :=
  let segments := splitAll '/' path.toList
  let last := segments.getLastD []
  { namespaceName :=
      String.ofList (reversed '.' host.toList ++ ['.'].intercalate segments.dropLast)
    typeName :=
      String.ofList
        (normalizeChars (dropEnding ".schema".toList (dropEnding ".json".toList last))) }

/-- What the value of `$id` suggests: nothing unless it is the URL of a host. -/
def ofJson? : Json → Except Failure (Option SchemaId)
  | .string s =>
    if s = "" then .ok none
    else
      match Url.ofString? s with
      | none => .error .malformedUrl
      | some u => .ok (u.host?.map fun host => ofUrl host u.path)
  | _ => .ok none

/-! ### Examples -/

example :
    (ofJson? (.string "https://example.com/schemas/product.schema.json")).toOption =
      some (some ⟨"com.example.schemas", "product"⟩) := by
  decide +kernel

end SchemaId

end ConceptModel

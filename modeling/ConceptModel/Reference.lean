import ConceptModel.Failure
import ConceptModel.Text.Identifier
import ConceptModel.Text.Percent
import ConceptModel.Text.Split

/-!
# References

The local references of a document.  A reference such as `#/definitions/Person` points
to a place by its segments; it names a definition when the place lies directly in the
container of definitions.
-/

namespace ConceptModel

/-- The name of a root that has none of its own. -/
def rootTypeName : String := "Root"

namespace Reference

open Text

/-! ### Pointers -/

/-- Whether a value is a reference inside its document. -/
def isLocal : Json → Bool
  | .string s => "#".toList.isPrefixOf s.toList
  | _ => false

/-- The characters with every escaped comma read as a comma. -/
def unescapeCommas : List Char → List Char
  | '%' :: '2' :: 'C' :: rest | '%' :: '2' :: 'c' :: rest => ',' :: unescapeCommas rest
  | c :: rest => c :: unescapeCommas rest
  | [] => []

/-- The segment that the characters between two slashes stand for. -/
def segment? (cs : List Char) : Option String :=
  (decodeUri? cs).map fun decoded => String.ofList (unescapeCommas decoded)

/-- The segments of a reference after its number sign; empty ones do not count.  There
are none when a segment holds escapes of malformed bytes. -/
def segments? (reference : String) : Option (List String) :=
  ((splitAll '/' (reference.toList.drop 1)).filter (!·.isEmpty)).mapM segment?

/-! ### Definitions -/

/-- The containers of definitions, in the order of the search. -/
def containers : List (List String) :=
  [["definitions"], ["$defs"], ["schema", "components", "schemas"]]

/-- The container that references lead to when no other is known. -/
def defaultContainer : List String := ["definitions"]

/-- The path of the container of a document's definitions: the given one unless it is
empty, or the first that the document has; empty when it has none. -/
def locateDefinitions (document : Json) (given : List String) : List String :=
  if given ≠ [] then given
  else
    (containers.find? fun path => ((document.getPath? path).map Json.isObject).getD false).getD []

/-! ### Targets -/

/-- What a reference leads to. -/
inductive Target where
  /-- The root of the document. -/
  | root
  /-- A definition of the container. -/
  | definition (body : Json)
  /-- Any other place, which need not exist. -/
  | elsewhere
deriving DecidableEq, Repr

/-- A reference with the segments of its pointer and its target. -/
structure Resolved where
  pointer : List String
  target : Target
deriving DecidableEq, Repr

/-- The raw name of the declaration that a reference stands for when its target is not
followed. -/
def Resolved.typeName (r : Resolved) : String :=
  if r.target = .root then rootTypeName else pathName r.pointer

/-- The target of a pointer in a document whose definitions stand in `container`. -/
def target (document : Json) (container pointer : List String) : Target :=
  match pointer.getLast? with
  | none => .root
  | some key =>
    let container := if container = [] then defaultContainer else container
    if pointer.dropLast = container then
      match (document.getPath? container).bind (Json.get? key) with
      | some body => .definition body
      | none => .elsewhere
    else .elsewhere

/-- The reading of a reference in a document, or a failure when an escape is
malformed. -/
def resolve (document : Json) (container : List String) (reference : String) :
    Except Failure Resolved :=
  match segments? reference with
  | none => .error .malformedEscape
  | some pointer => .ok ⟨pointer, target document container pointer⟩

/-! ### Examples -/

example : segments? "#/definitions//Bar%3CBaz%2CBing%3E" =
    some ["definitions", "Bar<Baz,Bing>"] := by
  decide +kernel

end Reference

end ConceptModel

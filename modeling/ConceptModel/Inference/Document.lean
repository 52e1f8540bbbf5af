import ConceptModel.Inference.Step

/-!
# Reading documents

Reading to a bounded depth, and the bound that a document sets.  Following references
adds one reference after the other to those traversed, an array definition is read
anew at each place that refers to it, and everything else descends in the document; so
a document of `n` values is read within a depth cubic in `n`, unless the definition of
an array leads back to itself.
-/

namespace ConceptModel.Inference

/-- Reads fragments to a depth. -/
def readWithin : Nat → Reader
  | 0 => fun _ _ => .fail .endlessReferences
  | depth + 1 => step (readWithin depth)

/-- A depth within which a fragment is read in its context. -/
def depthBound (fragment : Fragment) (c : Context) : Nat :=
  let size := c.document.size + fragment.body.size + 2
  16 * (size * size * size)

/-- Reads a fragment. -/
def read : Reader := fun fragment c => readWithin (depthBound fragment c) fragment c

/-- The models found by reading a document. -/
def modelsOf (found : Results) : Models :=
  match found with
  | .one (.models ms) => ms
  | _ => {}

/-- The segments of a path, if they are strings. -/
def segments? (path : List Json) : Option (List String) :=
  path.mapM fun
    | .string s => some s
    | _ => none

/-- The context in which a document is read. -/
def Context.start (namespaceName : Json) (metaNamespace : String) (container : List String) :
    Context :=
  { namespaceName := namespaceName, metaNamespace := metaNamespace, container := container }

/-- The models of a document, whose definitions stand at a path if it is nonempty.
Segments that are no strings lead nowhere, which is noticed once the document is
known to be a schema. -/
def inferModels (document namespaceName : Json) (metaNamespace : String) (path : List Json) :
    Report Models :=
  match segments? path with
  | some container => do
    let found ← read ⟨.document, document, []⟩ (.start namespaceName metaNamespace container)
    return modelsOf found
  | none => do
    let _ ← rootName document
    .fail .wrongKind

end ConceptModel.Inference

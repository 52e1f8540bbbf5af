import ConceptModel.Inference.Fragment
import ConceptModel.Inference.Primitive
import ConceptModel.Dialect.Check
import ConceptModel.Json.Writer
import ConceptModel.Reference
import ConceptModel.SchemaId

/-!
# Reading fragments

One step of reading a document, for a fragment of each role.  A step hands the
fragments that it depends on to a given reader, so that reading a whole document is
the least reader that reads every fragment by a step.

A construct without a counterpart is approximated with a warning where there is an
approximation, and fails where there is none.
-/

namespace ConceptModel.Inference

open Text

/-- A reader of fragments. -/
abbrev Reader := Fragment → Context → Report Results

/-! ### Names -/

/-- Names of fields that no schema declares. -/
def reservedNames : List String := ["$identifier", "$class", "$timestamp"]

/-- The decorator of a text that holds any JSON value. -/
def stringifiedJson : Decorator := { name := "StringifiedJson" }

/-- The decorator of a text that holds a value of one of several types. -/
def stringifiedUnion (types : List Json) : Decorator :=
  { name := "StringifiedUnionType"
    arguments := ["[" ++ ",".intercalate (types.map Json.bare) ++ "]"] }

/-- The names of the values of an enumeration: its elements, without the empty ones. -/
def enumerationValues (elements : List Json) : List String :=
  (elements.filter Json.isTruthy).map fun v => normalizeIdentifier v.bare

/-- What a field takes from its place and from what is forced upon it. -/
def fieldBase (name : String) (c : Context) : FieldBase :=
  { name := c.overrides.name.getD name
    isArray := c.overrides.isArray.getD false
    isOptional :=
      match c.required with
      | some names => !names.contains (.string name)
      | none => true
    decorators := c.overrides.decorators.getD [] }

/-! ### References -/

/-- A reference is followed inside the document and dropped outside of it. -/
def readReference (read : Reader) (body : Json) (path : List String) (c : Context) :
    Report Results :=
  if Reference.isLocal body then read ⟨.localReference, body, path⟩ c
  else do
    Report.note (.remoteSkipped body)
    return .nothing

/-- A reference to a definition that is not being read already yields what the
definition yields; any other one yields a name. -/
def followReference (read : Reader) (reference : String) (c : Context) : Report Results := do
  let resolved ← Report.ofExcept (Reference.resolve c.document c.container reference)
  if c.traversed.contains reference then
    return .one (.typeName (pathName resolved.pointer))
  else
    match resolved.target with
    | .definition body =>
      read ⟨.definition, body, resolved.pointer⟩
        { c with traversed := reference :: c.traversed }
    | _ => return .one (.typeName resolved.typeName)

/-- A local reference. -/
def readLocalReference (read : Reader) (body : Json) (c : Context) : Report Results :=
  match body with
  | .string reference => followReference read reference c
  | .array _ => .fail .missingPart
  | _ => .fail .wrongKind

/-- The raw name of what a reference has led to: of the first result, when there are
several. -/
def referencedName : Results → Option String
  | .one (.typeName name) => some name
  | .one (.declaration d) => some d.name
  | .many (first :: _) =>
    match first with
    | .one (.typeName name) => some name
    | .one (.declaration d) => some d.name
    | _ => none
  | _ => none

/-! ### Properties -/

/-- The fields and declarations of all properties of an object, in order. -/
def readEach (read : Reader) (role : Role) (path : List String) (c : Context) :
    List (String × Json) → Report (List Found)
  | [] => return []
  | (name, body) :: rest => do
    let found ← read ⟨role, body, path ++ [name]⟩ c
    let others ← readEach read role path c rest
    return found.flatten ++ others

/-- The members of an object, each read in a role. -/
def readMembers (read : Reader) (role : Role) (body : Json) (path : List String)
    (c : Context) : Report Results :=
  match body with
  | .object fields => do
    let found ← readEach read role path c fields
    return .ofList found
  | _ => .fail .missingPart

/-- The value of a keyword that must be there. -/
def requireKeyword (body : Json) (keyword : String) : Report Json :=
  match body with
  | .object fields => Report.ofOption .missingKeyword (Json.lookup? keyword fields)
  | _ => .fail .wrongKind

/-- An array: a tuple becomes an object with a field for each element, or a text when
it may have further elements; any other array is a field of its items. -/
def readArray (read : Reader) (body : Json) (path : List String) (c : Context) :
    Report Results := do
  let items ← requireKeyword body "items"
  match items with
  | .array _ =>
    if (Body.ofJson body).isTuple then do
      Report.warn (.tupleAsConcept (nameOf path))
      read ⟨.tuple, body, path⟩ c
    else do
      Report.warn (.tupleAsText (nameOf path))
      read ⟨.property, .object [("type", .string "object")], path⟩ c
  | _ =>
    read ⟨.property, items, path⟩
      { c with overrides := { c.overrides with isArray := some true } }

/-- The integer that a value stands for. -/
def integerOf : Json → Except Failure Int
  | .bool b => .ok (if b then 1 else 0)
  | .number x =>
    match x.truncate? with
    | some n => .ok n
    | none => .error (if x = .double .nan then .notInteger else .infiniteCount)
  | .string s =>
    match Text.integer? s.toList with
    | some n => .ok n
    | none => .error .notInteger
  | _ => .error .wrongKind

/-- The elements before a position, which counts from the end when it is negative. -/
def takeUpTo (position : Int) (elements : List Json) : List Json :=
  if 0 ≤ position then elements.take position.toNat
  else elements.take (elements.length + position).toNat

/-- The elements of a list, or the characters of a string. -/
def elementsOf : Json → Except Failure (List Json)
  | .array elements => .ok elements
  | .string s => .ok (s.toList.map fun c => .string c.toString)
  | _ => .error .wrongKind

/-- The object that a tuple stands for: a property for each of its elements up to the
greatest number of them, required up to the least number. -/
def tupleObject (items : List Json) (least greatest : Int) : Json :=
  .object
    [("type", .string "object"),
      ("properties",
        .object ((takeUpTo greatest items).mapIdx fun index item => (toString index, item))),
      ("required",
        .array ((List.range (takeUpTo least items).length).map fun index =>
          .string (toString index)))]

/-- A tuple is read as the object that it stands for. -/
def readTuple (read : Reader) (body : Json) (path : List String) (c : Context) :
    Report Results := do
  let items ← requireKeyword body "items"
  let greatest ← requireKeyword body "maxItems"
  let greatest ← Report.ofExcept (integerOf greatest)
  let elements ← Report.ofExcept (elementsOf items)
  let least ← requireKeyword body "minItems"
  let least ← Report.ofExcept (integerOf least)
  read ⟨.property, tupleObject elements least greatest, path⟩ c

/-- A property.  Reserved names are left out, and any other property is read by the first
rule that fits its schema. -/
def readProperty (read : Reader) (value : Json) (path : List String) (c : Context) :
    Report Results :=
  let body := Body.ofJson value
  let name := nameOf path
  let base := fieldBase name c
  if reservedNames.contains name then return .nothing
  else
    match body.propertyRule with
    | .enumeration elements =>
      let enumName := normalizeName (pathName path)
      return .ofList
        [.field (base.field (.declared enumName)),
          .declaration (.enumeration enumName (enumerationValues elements))]
    | .alternation => do
      Report.warn (.firstAlternative body.alternationKeyword name)
      read ⟨.property, .object body.flattened, path⟩ c
    | .reference => do
      let referenced ← read ⟨.reference, body.getD "$ref", path⟩ c.bare
      match referenced with
      | .nothing => return .nothing
      | .one (.deferred body path) =>
        read ⟨.property, .object body, path⟩ { c with overrides := { name := some name } }
      | found =>
        let target ← Report.ofOption .missingPart (referencedName found)
        return .ofList [.field (base.field (.declared (normalizeName target)))]
    | .array => read ⟨.array, .object body, path⟩ c
    | .union types => do
      Report.warn (.unionAsText name)
      read ⟨.property, .object (Json.setField "type" (.string "string") body), path⟩
        { c with
          overrides := { c.overrides with decorators := some [stringifiedUnion types] } }
    | .freeform =>
      return .one (.field { base.field .string with decorators := [stringifiedJson] })
    | .inline => do
      let conceptName := pathName path
      let derived ← read ⟨.definition, .object body, [conceptName]⟩ c.bare
      return .many
        [.one (.field (base.field (.declared (normalizeName conceptName)))), derived]
    | .primitive => do
      let field ← body.primitiveField name base
      return .one (.field field)

/-! ### Definitions -/

/-- A definition that lists its values, or any other. -/
def readDefinition (read : Reader) (body : Json) (path : List String) (c : Context) :
    Report Results :=
  match body.get? "enum" with
  | some (.array _) => read ⟨.enumeration, body, path⟩ c
  | _ => read ⟨.structural, body, path⟩ c

/-- The elements of what lists them: a list, the keys of an object, or the characters
of a string. -/
def listed : Json → Except Failure (List Json)
  | .array elements => .ok elements
  | .object fields => .ok (fields.map fun (key, _) => .string key)
  | .string s => .ok (s.toList.map fun c => .string c.toString)
  | _ => .error .wrongKind

/-- An enumeration. -/
def readEnumeration (body : Json) (path : List String) : Report Results := do
  let value ← requireKeyword body "enum"
  let elements ← Report.ofExcept (listed value)
  return .one
    (.declaration (.enumeration (normalizeName (nameOf path)) (enumerationValues elements)))

/-- Whether a definition stands where it must be an object: in a container, and not
under the root. -/
def mustBeObject (path : List String) : Report Bool :=
  match path with
  | [] => .fail .emptyPath
  | [_] => return false
  | first :: _ => return first ≠ rootTypeName

/-- The results of a concept: the concept, then the concepts and enumerations that its
properties have brought forth. -/
def conceptResults (name : String) (found : List Found) : Results :=
  let concept : Declaration := .concept name false (found.filterMap Found.field?)
  let spawned := found.filterMap Found.spawned?
  if spawned.isEmpty then .one (.declaration concept)
  else .ofList (.declaration concept :: spawned)

/-- The concept of an object with properties. -/
def readConcept (read : Reader) (body : Body) (name : String) (path : List String)
    (c : Context) : Report Results :=
  match body.getD "properties" with
  | .null => return .nothing
  | properties => do
    let children ← read ⟨.properties, properties, path ++ ["properties"]⟩
      { c with required := body.required? }
    return conceptResults name children.flatten

/-- A definition that is no enumeration, read by the first rule that fits it: a scalar
when it is freeform, a property left to be read when it is an array, its first
alternative, what it refers to, or a concept. -/
def readStructural (read : Reader) (value : Json) (path : List String) (c : Context) :
    Report Results :=
  let body := Body.ofJson value
  let name := normalizeName (nameOf path)
  match body.structuralRule with
  | .scalar => return .one (.declaration (.scalar name [stringifiedJson]))
  | .array => return .one (.deferred body path)
  | .alternation => do
    Report.warn (.firstAlternative body.alternationKeyword (nameOf path))
    read ⟨.definition, body.firstAlternative, path⟩ c
  | .reference => read ⟨.reference, body.getD "$ref", path⟩ c
  | .concept => do
    let strict ← mustBeObject path
    if strict && !body.hasType "object" then
      .fail (.unsupportedDefinition (body.getD "type") name)
    else readConcept read body name path c

/-! ### Documents -/

/-- Checks a document against its dialect. -/
def checkDocument (document : Json) : Report Unit := do
  let dialect ← Report.ofExcept (Dialect.ofDocument document)
  Report.note (.checking dialect)
  Report.ofExcept (dialect.check document)

/-- The name of the root of a document that is a schema: the one that its `$id`
suggests, its title, or the common name of roots. -/
def rootName (document : Json) : Report String := do
  checkDocument document
  let body := Body.ofJson document
  let id ← Report.ofExcept (SchemaId.ofJson? (body.getD "$id"))
  match id with
  | some id => return id.typeName
  | none =>
    match body.getD "title" with
    | .string title => return if title = "" then rootTypeName else title
    | _ => return rootTypeName

/-- The declarations without those that share their name with an earlier one. -/
def distinctDeclarations : List Declaration → List Declaration
  | [] => []
  | d :: rest => d :: (distinctDeclarations rest).filter fun e => e.name ≠ d.name

/-- The object that a document stands for. -/
def wholeOf (document : Json) : Json := .object (Body.ofJson document)

/-- The place of the definitions of a document, at a given one or where it is looked for. -/
def containerOf (document : Json) (given : List String) : List String :=
  Reference.locateDefinitions (wholeOf document) given

/-- The context inside a document. -/
def Context.enter (c : Context) (document : Json) : Context :=
  { c with document := wholeOf document, container := containerOf document c.container }

/-- The models of a document whose parts have brought forth declarations. -/
def Context.modelsWith (c : Context) (found : List Declaration) : Models :=
  { models := [{ namespaceName := c.namespaceName, declarations := found }]
    metaNamespace := c.metaNamespace }

/-- The definitions of the document, if there is an object at their place. -/
def readContainer (read : Reader) (c : Context) : Report Results :=
  match c.definitions? with
  | some fields => read ⟨.definitions, .object fields, c.container⟩ c
  | none => return .nothing

/-- A document: the declarations of its root, then those of its definitions. -/
def readDocument (read : Reader) (value : Json) (c : Context) : Report Results := do
  let root ← rootName value
  let c := c.enter value
  Report.note (.located root c.container)
  let fromRoot ← read ⟨.definition, value, [root]⟩ c
  let fromDefinitions ← readContainer read c
  let declarations := distinctDeclarations
    ((fromRoot.flatten ++ fromDefinitions.flatten).filterMap Found.declaration?)
  Report.note (.declared declarations.length)
  return .one (.models (c.modelsWith declarations))

/-! ### The step -/

/-- Reads a fragment by its role. -/
def step (read : Reader) : Reader := fun fragment c =>
  match fragment.role with
  | .document => readDocument read fragment.body c
  | .definitions => readMembers read .definition fragment.body fragment.path c
  | .definition => readDefinition read fragment.body fragment.path c
  | .enumeration => readEnumeration fragment.body fragment.path
  | .structural => readStructural read fragment.body fragment.path c
  | .properties => readMembers read .property fragment.body fragment.path c
  | .property => readProperty read fragment.body fragment.path c
  | .array => readArray read fragment.body fragment.path c
  | .tuple => readTuple read fragment.body fragment.path c
  | .reference => readReference read fragment.body fragment.path c
  | .localReference => readLocalReference read fragment.body c
  | .unspecified => .fail .unspecifiedRole

end ConceptModel.Inference

import ConceptModel.Failure
import ConceptModel.Model.Basic

/-!
# Settings

The settings of a conversion.  They are read from the fields of a JSON object by name
and are not checked: a setting holds whatever value it was given.  Some names that are
none of settings mean something as well, because they are known of every object.
-/

namespace ConceptModel

/-- The settings of a conversion. -/
structure Settings where
  /-- The namespace of the generated model. -/
  namespaceName : Json := .string ""
  /-- The namespace of the metamodel. -/
  metaNamespace : Json := .string defaultMetaNamespace
  /-- The path of the definitions; they are searched for when it is empty.  It has no
  default to fall back on when all settings are replaced. -/
  definitionsPath : Option Json := some (.array [])
  /-- Whether a comment at the top tells how a text was generated. -/
  generationComment : Json := .bool true
  /-- How metamodel texts are indented. -/
  indent : Json := .number (.int 4)
  /-- What the names of TypeScript interfaces start with. -/
  interfaceStart : Json := .string "I"
  /-- Whether the settings can be listed. -/
  isListable : Bool := true
deriving DecidableEq, Repr

namespace Settings

/-- The settings that the fields of an object are, in place of all others. -/
def replaced (fields : List (String × Json)) : Settings :=
  let field? := (Json.object fields).get?
  let initial : Settings := {}
  { namespaceName := (field? "namespace").getD initial.namespaceName
    metaNamespace := (field? "meta_model_namespace").getD initial.metaNamespace
    definitionsPath := field? "path_to_definitions"
    generationComment := (field? "add_generation_comment").getD initial.generationComment
    indent := (field? "json_indent").getD initial.indent
    interfaceStart := (field? "typescript_interface_prefix").getD initial.interfaceStart
    isListable := (field? "to_dict").isNone }

/-- The settings with one of them changed by name.  A value under the name of the listing
takes its place, and an object under the name of all that an object holds takes the place
of all settings.  The kind of an object can be no value, and what refers to it cannot be
changed.  Other names have no effect. -/
def set (s : Settings) (name : String) (value : Json) : Except Failure Settings :=
  match name with
  | "namespace" => .ok { s with namespaceName := value }
  | "meta_model_namespace" => .ok { s with metaNamespace := value }
  | "path_to_definitions" => .ok { s with definitionsPath := some value }
  | "add_generation_comment" => .ok { s with generationComment := value }
  | "json_indent" => .ok { s with indent := value }
  | "typescript_interface_prefix" => .ok { s with interfaceStart := value }
  | "to_dict" => .ok { s with isListable := false }
  | "__dict__" =>
    match value with
    | .object fields => .ok (replaced fields)
    | _ => .error .wrongKind
  | "__class__" => .error .wrongKind
  | "__weakref__" => .error .missingPart
  | _ => .ok s

/-- The settings after one field of an object.  Only what they have already is changed. -/
def take (s : Settings) : String × Json → Except Failure Settings
  | (name, value) =>
    if name = "path_to_definitions" ∧ s.definitionsPath = none then .ok s else s.set name value

/-- The settings that the fields of an object make, starting from the defaults. -/
def ofFields (fields : List (String × Json)) : Except Failure Settings :=
  fields.foldlM take {}

/-- The settings that a value describes; only an object does. -/
def ofJson? : Json → Except Failure Settings
  | .object fields => ofFields fields
  | _ => .error .missingPart

/-- The values of the settings by name. -/
def toJson (s : Settings) : Json :=
  .object
    ([("namespace", s.namespaceName), ("meta_model_namespace", s.metaNamespace)]
      ++ (s.definitionsPath.map fun path => ("path_to_definitions", path)).toList
      ++ [("add_generation_comment", s.generationComment), ("json_indent", s.indent),
        ("typescript_interface_prefix", s.interfaceStart)])

/-- The list of the settings, if they can be listed and none is missing. -/
def listing (s : Settings) : Except Failure Json :=
  if !s.isListable then .error .wrongKind
  else if s.definitionsPath.isNone then .error .missingPart
  else .ok s.toJson

/-- The segments of the definitions path: the elements of a list, the characters of a
string or the keys of an object; none when it is not set. -/
def definitionsSegments (s : Settings) : Except Failure (List Json) :=
  match s.definitionsPath with
  | none => .error .missingPart
  | some path =>
    if !path.isSet then .ok []
    else
      match path with
      | .array segments => .ok segments
      | .string text => .ok (text.toList.map fun c => .string c.toString)
      | .object fields => .ok (fields.map fun (key, _) => .string key)
      | _ => .error .wrongKind

end Settings

end ConceptModel

import ConceptModel.Json.Plain
import ConceptModel.Regex.Fault

/-!
# Failures

The causes for which a conversion fails.  Those that speak to whoever wrote the schema
or chose the settings have a message.
-/

namespace ConceptModel

/-- Why a conversion fails. -/
inductive Failure where
  /-- No namespace is configured. -/
  | namespaceMissing
  /-- The type of a property has no counterpart. -/
  | unsupportedProperty (type : Json) (name : String)
  /-- The type of a definition has no counterpart. -/
  | unsupportedDefinition (type : Json) (name : String)
  /-- The document is not a schema of its dialect. -/
  | invalidSchema
  /-- A pattern of the document cannot be used. -/
  | unusablePattern (fault : Regex.Fault)
  /-- A reference holds percent escapes of bytes that are not UTF-8. -/
  | malformedEscape
  /-- A URL has a malformed authority. -/
  | malformedUrl
  /-- A value names no output format. -/
  | unknownFormat (value : Json)
  /-- A fragment does not say how it is to be read. -/
  | unspecifiedRole
  /-- A value is not of the kind that its use requires. -/
  | wrongKind
  /-- A value lacks the part that its use requires. -/
  | missingPart
  /-- An object lacks a keyword that its use requires. -/
  | missingKeyword
  /-- A definition stands nowhere. -/
  | emptyPath
  /-- A number is no integer where one is required. -/
  | notInteger
  /-- A number is infinite where an integer is required. -/
  | infiniteCount
  /-- References lead on without end. -/
  | endlessReferences
deriving DecidableEq, Repr

namespace Failure

/-- The message about a type that has no counterpart. -/
def unsupportedMessage (type : Json) (place : String) : String :=
  "Type keyword \x27" ++ type.plain ++ "\x27 in " ++ place ++ " is not supported."

/-- The message of a failure, for those that have one. -/
def message? : Failure → Option String
  | namespaceMissing => some "A namespace is required to generate a Concerto model."
  | unsupportedProperty type name =>
    some (unsupportedMessage type ("\x27" ++ name ++ "\x27"))
  | unsupportedDefinition type name =>
    some (unsupportedMessage type ("definition \x27" ++ name ++ "\x27"))
  | unspecifiedRole => some "Cannot visit SchemaFragment"
  | unknownFormat value => some (value.plainNested ++ " is not a valid OutputFormat")
  | _ => none

end Failure

end ConceptModel

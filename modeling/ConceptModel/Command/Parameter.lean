import ConceptModel.Generator
import ConceptModel.Text.Similarity

/-!
# Parameters of the command

The options and arguments of the command, with the ways to spell an option, and whether
it takes a value.
-/

namespace ConceptModel.Command

/-- A parameter of the command. -/
inductive Parameter where
  /-- The namespace of the generated model. -/
  | namespaceName
  /-- A file with settings. -/
  | config
  /-- The output format. -/
  | format
  /-- The place of the definitions. -/
  | definitionsPath
  /-- The namespace of the metamodel. -/
  | metaNamespace
  /-- Whether notes are shown as well as warnings. -/
  | verbose
  /-- Whether only the help text is wanted. -/
  | help
  /-- The file of the document. -/
  | path
  /-- The file to write. -/
  | output
deriving DecidableEq, Repr

namespace Parameter

/-- The options. -/
def options : List Parameter :=
  [namespaceName, config, format, definitionsPath, metaNamespace, verbose, help]

/-- The arguments, in order. -/
def arguments : List Parameter := [path, output]

/-- The name under which the value of a parameter is found. -/
def name : Parameter → String
  | namespaceName => "namespace"
  | config => "config"
  | format => "output_format"
  | definitionsPath => "definitions_path"
  | metaNamespace => "metamodel_namespace"
  | verbose => "verbose"
  | help => "help"
  | path => "path"
  | output => "output"

/-- The long spelling of an option, and the name of an argument in messages. -/
def long : Parameter → String
  | namespaceName => "--namespace"
  | config => "--config"
  | format => "--format"
  | definitionsPath => "--definitions-path"
  | metaNamespace => "--metamodel-namespace"
  | verbose => "--verbose"
  | help => "--help"
  | path => "[PATH]"
  | output => "[OUTPUT]"

/-- The letter of an option that has a short spelling. -/
def letter? : Parameter → Option Char
  | namespaceName => some 'n'
  | config => some 'c'
  | format => some 'f'
  | verbose => some 'v'
  | _ => none

/-- Whether an option takes no value. -/
def isSwitch : Parameter → Bool
  | verbose | help => true
  | _ => false

/-- The value of a parameter that is not given. -/
def default : Parameter → Json
  | format => .string Format.cto.name
  | verbose | help => .bool false
  | _ => .null

/-- The option with a long spelling. -/
def ofLong? (spelling : String) : Option Parameter :=
  options.find? fun p => p.long = spelling

/-- The long spellings of options near a spelling. -/
def nearLong (spelling : String) : List String := Text.nearTo spelling (options.map long)

/-- The option with a letter. -/
def ofLetter? (letter : Char) : Option Parameter :=
  options.find? fun p => p.letter? = some letter

/-- The spellings of a parameter, as messages show them. -/
def hint (p : Parameter) : String :=
  match p.letter? with
  | some letter => "'" ++ p.long ++ "' / '-" ++ letter.toString ++ "'"
  | none => "'" ++ p.long ++ "'"

end Parameter

end ConceptModel.Command

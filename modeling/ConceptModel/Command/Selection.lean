import ConceptModel.Command.Parameter

/-!
# Selections

What the words of a command line select: options with their values, in the order of
their appearance, and arguments.  Options may stand anywhere; two hyphens end them.
The value of a long option follows an equals sign or is the next word; letters may be
joined, and what follows the letter of an option with a value is its value.
-/

namespace ConceptModel.Command

/-- Why words select nothing. -/
inductive WordError where
  /-- No option has this spelling, and the options with a spelling near it. -/
  | unknownOption (spelling : String) (near : List String)
  /-- The value of an option is missing. -/
  | valueMissing (spelling : String)
  /-- A switch has a value. -/
  | valueUnexpected (spelling : String)
deriving DecidableEq, Repr

/-- An option with its value; that of a switch is empty. -/
abbrev Choice := Parameter × String

/-- Options with their values in the order of their appearance, and arguments. -/
structure Selection where
  choices : List Choice := []
  arguments : List String := []
deriving DecidableEq, Repr

namespace Selection

/-- The selection with options in front. -/
def choose (choices : List Choice) (s : Selection) : Selection :=
  { s with choices := choices ++ s.choices }

/-- The selection with an argument in front. -/
def give (argument : String) (s : Selection) : Selection :=
  { s with arguments := argument :: s.arguments }

/-! ### Words -/

/-- What a word selects: options with their values, and an option, as it was spelled, that
waits for its value. -/
structure Reading where
  choices : List Choice
  waiting : Option (String × Parameter) := none
deriving DecidableEq, Repr

/-- The reading of the letters after a hyphen. -/
def readLetters : List Char → Except WordError Reading
  | [] => .ok ⟨[], none⟩
  | letter :: rest =>
    let spelling := "-" ++ letter.toString
    match Parameter.ofLetter? letter with
    | none => .error (.unknownOption spelling [])
    | some p =>
      if p.isSwitch then
        (readLetters rest).map fun r => { r with choices := (p, "") :: r.choices }
      else if rest.isEmpty then .ok ⟨[], some (spelling, p)⟩
      else .ok ⟨[(p, String.ofList rest)], none⟩

/-- The reading of a long option, with the value after an equals sign if there is one. -/
def readLong (p : Parameter) (value : Option (List Char)) : Except WordError Reading :=
  match p.isSwitch, value with
  | true, none => .ok ⟨[(p, "")], none⟩
  | true, some _ => .error (.valueUnexpected p.long)
  | false, none => .ok ⟨[], some (p.long, p)⟩
  | false, some cs => .ok ⟨[(p, String.ofList cs)], none⟩

/-- The reading of a word that is an option. -/
def readOption (word : String) : Except WordError Reading :=
  let (spelling, value) := Text.cutFirst '=' word.toList
  let spelling := String.ofList spelling
  match Parameter.ofLong? spelling with
  | some p => readLong p value
  | none =>
    if "--".toList.isPrefixOf word.toList then
      .error (.unknownOption spelling (Parameter.nearLong spelling))
    else readLetters (word.toList.drop 1)

/-- Whether a word is an option: a hyphen and something after it. -/
def isOption (word : String) : Bool :=
  match word.toList with
  | '-' :: _ :: _ => true
  | _ => false

/-- What words select. -/
def ofWords : List String → Except WordError Selection
  | [] => .ok {}
  | word :: rest =>
    if word = "--" then .ok { arguments := rest }
    else if isOption word then
      match readOption word with
      | .error e => .error e
      | .ok ⟨choices, none⟩ => (ofWords rest).map (choose choices)
      | .ok ⟨choices, some (spelling, p)⟩ =>
        match rest with
        | [] => .error (.valueMissing spelling)
        | value :: rest => (ofWords rest).map (choose (choices ++ [(p, value)]))
    else (ofWords rest).map (give word)

/-! ### Values -/

/-- The value that an option was given last. -/
def value? (s : Selection) (p : Parameter) : Option String :=
  s.choices.reverse.lookup p

/-- Whether a switch is on. -/
def isOn (s : Selection) (p : Parameter) : Bool := (s.value? p).isSome

/-! ### Examples -/

example : (ofWords ["-vn", "a", "x", "--format=md", "--", "-n"]).toOption =
    some ⟨[(.verbose, ""), (.namespaceName, "a"), (.format, "md")], ["x", "-n"]⟩ := by
  decide +kernel

end Selection

end ConceptModel.Command

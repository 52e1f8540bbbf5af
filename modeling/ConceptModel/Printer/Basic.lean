import ConceptModel.Json.Plain
import ConceptModel.Model.Basic

/-!
# Printing

What the printers of models share: the text of a number, the constraints of a field in
words, and the layout of texts in lines.
-/

namespace ConceptModel.Printer

/-- A line with its line break. -/
def line (text : String) : String := text ++ "\n"

/-- Lines one after the other. -/
def lines (texts : List String) : String := String.join (texts.map line)

/-- The line of a comment, if there is one. -/
def commentLine (comment : Option String) : String :=
  match comment with
  | some text => line text
  | none => ""

/-- The texts of several models, with an empty line between them. -/
def joinModels (texts : List String) : String := "\n\n".intercalate texts

/-- The constraints of a validator, in words. -/
def constraints : Option Validator → List String
  | some (.regex pattern _) =>
    ["Matches Regular Expression: \x60" ++ pattern.plain ++ "\x60"]
  | some (.doubleRange lower upper) | some (.integerRange lower upper) =>
    (lower.map fun x => "Minimum Value: " ++ x.compact).toList
      ++ (upper.map fun x => "Maximum Value: " ++ x.compact).toList
  | none => []

end ConceptModel.Printer

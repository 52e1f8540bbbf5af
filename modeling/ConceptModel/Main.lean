import ConceptModel.Command.Run

/-!
# The program

The command on the files of the system.  The workspace of a run holds what stands at the
places that the words of the command line may name.
-/

namespace ConceptModel.Command

/-- The texts that a word may hold: the word itself and its endings. -/
def wordTexts (word : String) : List String :=
  (List.range (word.length + 1)).map fun n => String.ofList (word.toList.drop n)

/-- A place and the places on the way to it, from the root on. -/
def waysTo (p : Place) : List Place := (List.range (p.length + 1)).map p.take

/-- The workspace that words may name: what stands at their places and on the way there.
A file that is no text counts as a surrogate. -/
def lookAround (words : List String) : IO Workspace := do
  let here ← IO.currentDir
  let start : Workspace := { here := Workspace.names here.toString, directories := [], files := [] }
  let look (ws : Workspace) (p : Place) : IO Workspace := do
    let place := here / p.text
    if ws.holds p then return ws
    else if ← place.isDir then return { ws with directories := p :: ws.directories }
    else if ← place.pathExists then
      let text ← try IO.FS.readFile place catch _ => pure (Text.surrogate 0xDC80).toString
      return ws.put p text
    else return ws
  let places := (words.flatMap wordTexts).map start.resolve
  ((start.here :: places).flatMap waysTo).foldlM look start

/-- Writes the files that differ from those of an earlier workspace. -/
def save (before after : Workspace) : IO Unit :=
  for (p, text) in after.files do
    unless before.text? p = some text do
      IO.FS.writeFile p.text text

end ConceptModel.Command

/-- Runs the command with the words of the command line. -/
def main (words : List String) : IO UInt32 := do
  let ws ← ConceptModel.Command.lookAround words
  let r := ConceptModel.Command.run ws words
  ConceptModel.Command.save ws r.workspace
  IO.print r.stdout
  IO.eprint r.stderr
  return UInt32.ofNat r.exitCode

import ConceptModel.Text.Split
import ConceptModel.Text.Surrogate

/-!
# Workspaces

The files and directories that a command may see, and the directory in which it runs.
Names are resolved without regard to what exists; whether something stands at a name is
found by following it from directory to directory.  Only a text that has an encoding can
be read or written.
-/

namespace ConceptModel

/-- A place among files: the names that lead to it from the root. -/
abbrev Place := List String

/-- The absolute name of a place. -/
def Place.text (p : Place) : String := "/" ++ "/".intercalate p

/-- The place one name further, where two dots lead back. -/
def Place.step (p : Place) (name : String) : Place :=
  if name = ".." then p.dropLast else p ++ [name]

/-- Why a file cannot be read or written. -/
inductive AccessError where
  /-- Nothing stands there. -/
  | missing
  /-- A directory stands there. -/
  | directory
  /-- A file stands where a directory should. -/
  | notDirectory
  /-- A name is too long. -/
  | nameTooLong
  /-- The bytes of the file encode no text. -/
  | undecodable
  /-- The text has no encoding. -/
  | unencodable
deriving DecidableEq, Repr

/-- Files with their texts, directories, and the current directory.  Bytes that encode no
text count as surrogates. -/
structure Workspace where
  here : Place
  directories : List Place
  files : List (Place × String)
deriving DecidableEq, Repr

namespace Workspace

/-! ### Names -/

/-- The names that a text leads through: the parts between slashes that are neither
empty nor a single dot. -/
def names (text : String) : List String :=
  ((Text.splitAll '/' text.toList).map String.ofList).filter fun name =>
    name ≠ "" && name ≠ "."

/-- The greatest size of a name. -/
def nameLimit : Nat := 255

/-- The greatest size of the names that lead to a place, with the slashes between. -/
def pathLimit : Nat := 4095

/-- Whether names are too long together. -/
def areTooLong (names : List String) : Bool := pathLimit < ("/".intercalate names).utf8ByteSize

/-- Where a text starts from: the root when it starts with a slash, the current directory
otherwise. -/
def start (ws : Workspace) (text : String) : Place :=
  if "/".toList.isPrefixOf text.toList then [] else ws.here

/-- The place that a text names. -/
def resolve (ws : Workspace) (text : String) : Place :=
  (names text).foldl Place.step (ws.start text)

/-! ### What stands where -/

/-- Whether a place is a directory. -/
def isDirectory (ws : Workspace) (p : Place) : Bool := ws.directories.contains p

/-- The text of the file at a place. -/
def text? (ws : Workspace) (p : Place) : Option String := ws.files.lookup p

/-- Whether a file or a directory stands at a place. -/
def holds (ws : Workspace) (p : Place) : Bool := ws.isDirectory p || (ws.text? p).isSome

/-- Whether names lead through directories to something that exists.  A name that is too
long leads nowhere. -/
def leads (ws : Workspace) : Place → List String → Except AccessError Bool
  | p, [] => .ok (ws.holds p)
  | p, name :: rest =>
    if !ws.isDirectory p then .ok false
    else if nameLimit < name.utf8ByteSize then .error .nameTooLong
    else ws.leads (p.step name) rest

/-- A text as a command line shows it: the last of its names when they lead to something
that exists. -/
def shown (ws : Workspace) (text : String) : Except AccessError String := do
  if areTooLong (names text) then .error .nameTooLong
  else if ← ws.leads (ws.start text) (names text) then return (names text).getLastD ""
  else return text

/-! ### Access -/

/-- The text of the file at a place, or the reason why there is none. -/
def read (ws : Workspace) (p : Place) : Except AccessError String :=
  match ws.text? p with
  | some text => if Text.isEncodable text then .ok text else .error .undecodable
  | none => .error (if ws.isDirectory p then .directory else .missing)

/-- The workspace with a file at a place. -/
def put (ws : Workspace) (p : Place) (text : String) : Workspace :=
  { ws with files := (p, text) :: ws.files.filter fun (q, _) => q ≠ p }

/-- What keeps a file from being opened where names lead from a place on. -/
def obstacle? (ws : Workspace) : Place → List String → Option AccessError
  | p, [] => if ws.isDirectory p then some .directory else none
  | p, name :: rest =>
    if !ws.isDirectory p then some (if (ws.text? p).isSome then .notDirectory else .missing)
    else if nameLimit < name.utf8ByteSize then some .nameTooLong
    else ws.obstacle? (p ++ [name]) rest

/-- The workspace once a file is opened to be written, which empties it, or the reason why
it cannot be. -/
def opened (ws : Workspace) (p : Place) : Except AccessError Workspace :=
  if areTooLong p then .error .nameTooLong
  else
    match ws.obstacle? [] p with
    | some e => .error e
    | none => .ok (ws.put p "")

/-- The workspace after a text is written to a place, and what comes of it.  The file is
opened before the text is encoded, so it stays empty if the text has no encoding. -/
def write (ws : Workspace) (p : Place) (text : String) : Workspace × Except AccessError Unit :=
  match ws.opened p with
  | .error e => (ws, .error e)
  | .ok emptied =>
    if Text.isEncodable text then (emptied.put p text, .ok ())
    else (emptied, .error .unencodable)

/-! ### Laws -/

theorem text?_put_self
    (ws : Workspace) (p : Place) (text : String) :
  (ws.put p text).text? p = some text
  := by
  simp [text?, put]

theorem put_put
    (ws : Workspace) (p : Place) (before after : String) :
  (ws.put p before).put p after = ws.put p after
  := by
  simp [put, List.filter_filter]

theorem text?_put_of_ne
    (ws : Workspace) {p q : Place} (text : String) (h : q ≠ p) :
  (ws.put p text).text? q = ws.text? q
  := by
  simp only [text?, put, List.lookup_cons, beq_eq_false_iff_ne.mpr h]
  induction ws.files with
  | nil => rfl
  | cons entry rest ih =>
    obtain ⟨r, other⟩ := entry
    by_cases hr : r = p
    · subst hr
      simpa [List.lookup_cons, beq_eq_false_iff_ne.mpr h] using ih
    · by_cases hq : q = r
      · subst hq
        simp [hr]
      · simpa [hr, List.lookup_cons, beq_eq_false_iff_ne.mpr hq] using ih

end Workspace

end ConceptModel

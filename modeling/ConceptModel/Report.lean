import ConceptModel.Dialect.Basic

/-!
# Reports

A computation that tells what happens on its way and may fail.  A `Report` holds the
events in their order, also those before a failure, and the outcome.  Events are
warnings, which speak to the author of a schema, and notes, which speak to whoever
watches the conversion.
-/

namespace ConceptModel

/-! ### Events -/

/-- What a conversion could not keep of a schema. -/
inductive Warning where
  /-- Only the first alternative of a keyword counts. -/
  | firstAlternative (keyword name : String)
  /-- A tuple whose elements are all described becomes a concept. -/
  | tupleAsConcept (name : String)
  /-- A tuple that may have further elements becomes a text. -/
  | tupleAsText (name : String)
  /-- A property of several types becomes a text. -/
  | unionAsText (name : String)
  /-- A format without a counterpart is left out. -/
  | formatIgnored (format : Json) (name : String)
deriving DecidableEq, Repr

/-- A name between double quotes. -/
def doubleQuoted (name : String) : String := "\"" ++ name ++ "\""

/-- The message of a warning. -/
def Warning.message : Warning → String
  | firstAlternative keyword name =>
    "Keyword '" ++ keyword ++ "' in definition '" ++ name
      ++ "' is not fully supported. Defaulting to first alternative."
  | tupleAsConcept name =>
    doubleQuoted name ++ " is an array containing a set of fixed elements. "
      ++ "Converting to a Concerto concept containing the fixed array elements as fields."
  | tupleAsText name =>
    doubleQuoted name ++ " is an array containing a mix of predefined and unknown elements. "
      ++ "Converting to a stringified JSON string."
  | unionAsText name =>
    doubleQuoted name ++ " is union type property. This feature is not supported by Concerto. "
      ++ "Defaulting to a \"string\" type."
  | formatIgnored format name =>
    "Format '" ++ format.plain ++ "' in '" ++ name ++ "' is not supported. It has been ignored."

/-- What a conversion does on its way. -/
inductive Note where
  /-- The document is checked against a draft. -/
  | checking (dialect : Dialect)
  /-- The root has a name, and the definitions a place. -/
  | located (rootName : String) (container : List String)
  /-- A reference leads out of the document. -/
  | remoteSkipped (reference : Json)
  /-- The document has yielded a number of declarations. -/
  | declared (count : Nat)
  /-- The models of a namespace are complete. -/
  | modelled (count : Nat) (namespaceName : Json)
  /-- A format is about to be printed. -/
  | rendering (printer : String)
deriving DecidableEq, Repr

/-- An event on the way of a conversion. -/
inductive Event where
  | warning (w : Warning)
  | note (n : Note)
deriving DecidableEq, Repr

/-- The messages of the warnings among events. -/
def warningMessages (events : List Event) : List String :=
  events.filterMap fun
    | .warning w => some w.message
    | .note _ => none

/-! ### Reports -/

/-- The events of a computation, and its result or the failure that ended it. -/
structure Report (α : Type) where
  events : List Event
  outcome : Except Failure α

namespace Report

variable {α β : Type}

/-- A computation without events that succeeds. -/
def pure (a : α) : Report α := ⟨[], .ok a⟩

/-- A computation that fails. -/
def fail (f : Failure) : Report α := ⟨[], .error f⟩

/-- A computation with one event. -/
def tell (e : Event) : Report Unit := ⟨[e], .ok ()⟩

/-- A warning. -/
def warn (w : Warning) : Report Unit := tell (.warning w)

/-- A note. -/
def note (n : Note) : Report Unit := tell (.note n)

/-- A computation followed by one that depends on its result; a failure ends both. -/
def bind (r : Report α) (f : α → Report β) : Report β :=
  match r.outcome with
  | .ok a => ⟨r.events ++ (f a).events, (f a).outcome⟩
  | .error e => ⟨r.events, .error e⟩

instance : Monad Report where
  pure := pure
  bind := bind

/-- A computation without events. -/
def ofExcept : Except Failure α → Report α
  | .ok a => pure a
  | .error f => fail f

/-- The value of an option, or a failure when there is none. -/
def ofOption (f : Failure) : Option α → Report α
  | some a => pure a
  | none => fail f

/-! ### Laws -/

@[simp]
theorem pure_bind
    (a : α) (f : α → Report β) :
  (pure a).bind f = f a
  := by
  rfl

@[simp]
theorem fail_bind
    (e : Failure) (f : α → Report β) :
  (fail e).bind f = fail e
  := by
  rfl

@[simp]
theorem bind_pure
    (r : Report α) :
  r.bind pure = r
  := by
  obtain ⟨events, outcome⟩ := r
  cases outcome <;> simp [bind, pure]

theorem bind_assoc
    {γ : Type} (r : Report α) (f : α → Report β) (g : β → Report γ) :
  (r.bind f).bind g = r.bind fun a => (f a).bind g
  := by
  obtain ⟨events, outcome⟩ := r
  cases outcome with
  | error e => rfl
  | ok a =>
    simp only [bind]
    cases (f a).outcome <;> simp

end Report

end ConceptModel

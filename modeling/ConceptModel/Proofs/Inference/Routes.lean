import ConceptModel.Proofs.Inference.Ends
import Mathlib.Data.List.Basic

/-!
# Routes of properties

The `Route` of a property goes on to the items of arrays, to first alternatives, and through
the array definitions to which references lead, and the field is built where it ends.  Each
array definition that is passed forgets the name that was pending when it was reached, in
favour of the name of the place that refers to it.  So a field keeps the key of its property
as long as one array definition is passed at most, or the last but one happens to have this
key: `Faithful`.
-/

namespace ConceptModel.Inference

open Relation Text

/-! ### Routes -/

/-- The schema of a property is read on as another one. -/
inductive Onward : Json → Json → Prop where
  | alternation {v : Json} (rule : (Body.ofJson v).propertyRule = .alternation) :
      Onward v (.object (Body.ofJson v).flattened)
  | items {v item : Json} (rule : (Body.ofJson v).propertyRule = .array)
      (held : (Body.ofJson v).get? "items" = some item) (noArray : item.isArray = false) :
      Onward v item

section

variable (document : Json) (container : List String)

/-- Whether a property is a reference whose chain ends at an array, the definition of a
key. -/
def Passes (v : Json) (key : String) (w : Json) : Prop :=
  ∃ r u, (Body.ofJson v).propertyRule = .reference ∧
    (Body.ofJson v).getD "$ref" = .string r ∧ Reference.isLocal (.string r) ∧
    EndsAt document container r key u ∧ ¬ Lists u ∧
    (Body.ofJson u).structuralRule = .array ∧ w = .object (Body.ofJson u)

/-- Whether a property is a reference that is dropped: it leads out of the document, or its
chain ends at a definition that declares nothing. -/
def Drops (v : Json) : Prop :=
  (Body.ofJson v).propertyRule = .reference ∧
    (Reference.isLocal ((Body.ofJson v).getD "$ref") = false ∨
      ∃ r key u, (Body.ofJson v).getD "$ref" = .string r ∧ EndsAt document container r key u ∧
        ¬ Declares u ∧ (Body.ofJson u).structuralRule ≠ .array)

/-- The schema of a property leads to another one through the array definitions of some
keys. -/
inductive Route : Json → List String → Json → Prop where
  | here {v : Json} : Route v [] v
  | onward {v w u : Json} {keys : List String} (step : Onward v w) (rest : Route w keys u) :
      Route v keys u
  | through {v w u : Json} {key : String} {keys : List String}
      (passes : Passes document container v key w) (rest : Route w keys u) :
      Route v (key :: keys) u

/-- Whether a field is built from the schema of a property as it is. -/
def Final (v : Json) : Prop :=
  (∀ w, ¬ Onward v w) ∧ ∀ key w, ¬ Passes document container v key w

/-- Whether the property of a key should become a field: its name is not reserved, and its
schema leads to no reference that is dropped. -/
def Kept (key : String) (v : Json) : Prop :=
  key ∉ reservedNames ∧ ∀ keys u, Route document container v keys u → ¬ Drops document container u

/-- Whether the field of a property has its key for a name: the key of no array definition
that is passed is reserved, and the last but one of them is the same key, if there is one. -/
def Faithful (key : String) (v : Json) : Prop :=
  ∀ keys u, Route document container v keys u →
    (∀ k ∈ keys, k ∉ reservedNames) ∧
    (Final document container u → (key :: keys).dropLast.getLastD key = key)

end

section

variable {document : Json} {container : List String} {v w u : Json} {keys : List String}

/-- A schema is read as one other at most. -/
theorem Onward.unique
    (hw : Onward v w) (hu : Onward v u) :
  w = u
  := by
  cases hw with
  | alternation rule =>
    cases hu with
    | alternation => rfl
    | items other => simp [rule] at other
  | items rule held =>
    cases hu with
    | alternation other => simp [rule] at other
    | items _ held' => simpa [held] using held'

/-- A schema that is read as another passes no key. -/
theorem Onward.not_passes
    (h : Onward v w) {key : String} :
  ¬ Passes document container v key u
  := by
  rintro ⟨r, last, other, -⟩
  cases h with
  | alternation rule | items rule => simp [rule] at other

/-- A schema passes one key at most. -/
theorem Passes.unique
    {key key' : String} (hw : Passes document container v key w)
    (hu : Passes document container v key' u) :
  key = key' ∧ w = u
  := by
  obtain ⟨r, last, -, held, -, ends, -, -, rfl⟩ := hw
  obtain ⟨r', last', -, held', -, ends', -, -, rfl⟩ := hu
  obtain rfl : r = r' := by simpa using held.symm.trans held'
  obtain ⟨rfl, rfl⟩ := ends.unique ends'
  exact ⟨rfl, rfl⟩

/-- A reference that is dropped passes no array. -/
theorem Drops.final
    (h : Drops document container v) :
  Final document container v
  := by
  obtain ⟨rule, dropped⟩ := h
  constructor
  · intro w step
    cases step with
    | alternation other | items other => simp [rule] at other
  · rintro key w ⟨r, u, -, held, isLocal, ends, -, isArray, -⟩
    obtain remote | ⟨r', key', u', held', ends', -, noArray⟩ := dropped
    · simp [held, isLocal] at remote
    · obtain rfl : r = r' := by simpa using held.symm.trans held'
      obtain ⟨-, rfl⟩ := ends.unique ends'
      exact noArray isArray

/-- No route goes on from where a field is built. -/
theorem Final.route
    (final : Final document container v) (h : Route document container v keys u) :
  keys = [] ∧ u = v
  := by
  cases h with
  | here => exact ⟨rfl, rfl⟩
  | onward step => exact absurd step (final.1 _)
  | through passes => exact absurd passes (final.2 _ _)

/-- There is one route, along which all others are. -/
theorem Route.along
    {keys' : List String} (h : Route document container v keys u)
    (ends : Final document container u) (h' : Route document container v keys' w) :
  ∃ rest, keys = keys' ++ rest ∧ Route document container w rest u
  := by
  induction h' generalizing keys with
  | here => exact ⟨keys, rfl, h⟩
  | onward step _ ih =>
    cases h with
    | here => exact absurd step (ends.1 _)
    | onward step' rest =>
      obtain rfl := step.unique step'
      exact ih rest
    | through passes => exact absurd passes step.not_passes
  | through passes _ ih =>
    cases h with
    | here => exact absurd passes (ends.2 _ _)
    | onward step => exact absurd passes step.not_passes
    | through passes' rest =>
      obtain ⟨rfl, rfl⟩ := passes.unique passes'
      obtain ⟨more, rfl, further⟩ := ih rest
      exact ⟨more, rfl, further⟩

/-- Routes that end come to one schema by the same keys. -/
theorem Route.unique
    {keys' : List String} (h : Route document container v keys u)
    (ends : Final document container u) (h' : Route document container v keys' w)
    (ends' : Final document container w) :
  keys = keys' ∧ u = w
  := by
  obtain ⟨rest, rfl, further⟩ := h.along ends h'
  obtain ⟨rfl, rfl⟩ := ends'.route further
  simp

end

/-! ### Names -/

section

variable {document : Json} {container : List String}

/-- What the names of the fields of a property come to: none when a name on its route is
reserved or a reference at the end of it is dropped, and otherwise the last but one of the
pending name, the own name and the keys that are passed. -/
inductive Named (document : Json) (container : List String) (v : Json) (name pending : String)
    (names : List String) : Prop where
  | barred {keys : List String} {u : Json} (route : Route document container v keys u)
      (bars : ∃ k ∈ name :: keys, k ∈ reservedNames) (yields : names = [])
  | dropped {keys : List String} {u : Json} (route : Route document container v keys u)
      (drops : Drops document container u) (yields : names = [])
  | kept {keys : List String} {u : Json} (route : Route document container v keys u)
      (final : Final document container u) (keeps : ¬ Drops document container u)
      (free : ∀ k ∈ name :: keys, k ∉ reservedNames)
      (yields : names = [(name :: keys).dropLast.getLastD pending])

variable {v w : Json} {name pending : String} {names : List String}

theorem Named.onward
    (step : Onward v w) (h : Named document container w name pending names) :
  Named document container v name pending names
  := by
  cases h with
  | barred route bars yields => exact .barred (.onward step route) bars yields
  | dropped route drops yields => exact .dropped (.onward step route) drops yields
  | kept route final keeps free yields => exact .kept (.onward step route) final keeps free yields

theorem Named.through
    {key : String} (passes : Passes document container v key w) (free : name ∉ reservedNames)
    (h : Named document container w key name names) :
  Named document container v name pending names
  := by
  cases h with
  | barred route bars yields =>
    obtain ⟨k, mem, reserved⟩ := bars
    exact .barred (.through passes route) ⟨k, .tail name mem, reserved⟩ yields
  | dropped route drops yields => exact .dropped (.through passes route) drops yields
  | kept route final keeps free' yields =>
    apply Named.kept (.through passes route) final keeps
    · intro k mem
      obtain rfl | mem := List.mem_cons.mp mem
      · exact free
      · exact free' k mem
    · rw [yields, List.dropLast_cons_cons, List.getLastD_cons]

/-- A property that is read as it is. -/
theorem Named.here
    (final : Final document container v) (keeps : ¬ Drops document container v)
    (free : name ∉ reservedNames) (yields : names = [pending]) :
  Named document container v name pending names
  := by
  apply Named.kept .here final keeps
  · simpa using free
  · simpa using yields

/-- What is neither an alternation, a reference nor an array ends a route. -/
theorem final_of_rule
    (alternation : (Body.ofJson v).propertyRule ≠ .alternation)
    (reference : (Body.ofJson v).propertyRule ≠ .reference)
    (array : (Body.ofJson v).propertyRule ≠ .array) :
  Final document container v ∧ ¬ Drops document container v
  := by
  constructor
  · constructor
    · intro w step
      cases step with
      | alternation rule => exact alternation rule
      | items rule => exact array rule
    · rintro key w ⟨r, u, rule, -⟩
      exact reference rule
  · rintro ⟨rule, -⟩
    exact reference rule

/-- A tuple is read as it is. -/
theorem final_of_tuple
    {items : List Json} (rule : (Body.ofJson v).propertyRule = .array)
    (held : (Body.ofJson v).get? "items" = some (.array items)) :
  Final document container v ∧ ¬ Drops document container v
  := by
  constructor
  · constructor
    · intro w step
      cases step with
      | alternation other => simp [rule] at other
      | items _ held' noArray =>
        obtain rfl := by simpa using held.symm.trans held'
        simp [Json.isArray] at noArray
    · rintro key w ⟨r, u, other, -⟩
      simp [rule] at other
  · rintro ⟨other, -⟩
    simp [rule] at other

end

section

variable {document : Json} {container : List String} {key : String} {v : Json}
  {names : List String}

/-- A route names one field at most. -/
theorem Named.length_le
    {name pending : String} (h : Named document container v name pending names) :
  names.length ≤ 1
  := by
  cases h with
  | barred _ _ yields | dropped _ _ yields | kept _ _ _ _ yields => simp [yields]

/-- A property that is not kept has no field. -/
theorem Named.eq_nil
    (h : Named document container v key key names) (left : ¬ Kept document container key v) :
  names = []
  := by
  cases h with
  | barred _ _ yields | dropped _ _ yields => exact yields
  | kept route final keeps free =>
    exfalso
    apply left
    use free key (.head _)
    intro keys u route' drops
    obtain ⟨-, rfl⟩ := route.unique final route' drops.final
    exact keeps drops

/-- A property that is kept has a field of its key exactly when it is faithful. -/
theorem Named.eq_singleton_iff
    (h : Named document container v key key names) (kept : Kept document container key v) :
  names = [key] ↔ Faithful document container key v
  := by
  obtain ⟨free, stays⟩ := kept
  cases h with
  | barred route bars yields =>
    obtain ⟨k, mem, reserved⟩ := bars
    constructor
    · simp [yields]
    · intro faithful
      obtain rfl | mem := List.mem_cons.mp mem
      · exact absurd reserved free
      · exact absurd reserved ((faithful _ _ route).1 k mem)
  | dropped route drops => exact absurd drops (stays _ _ route)
  | kept route final _ free' yields =>
    rw [yields, List.singleton_inj]
    constructor
    · intro same keys' w route'
      constructor
      · obtain ⟨rest, rfl, -⟩ := route.along final route'
        intro k mem
        exact free' k (.tail key (List.mem_append_left rest mem))
      · intro final'
        obtain ⟨rfl, -⟩ := route.unique final route' final'
        exact same
    · intro faithful
      exact (faithful _ _ route).2 final

end

end ConceptModel.Inference

import ConceptModel.Generator

/-!
# Generators without memory

A step of a generator changes the parts that it names and no other.  The answer of a
conversion, and the warnings it leaves once its inference has started, are those of a
generator built anew from the same document, settings and format, whatever steps came
before and however they ended.
-/

namespace ConceptModel

/-! ### Settings by name -/

namespace Settings

/-- Two settings are the same under a name. -/
def SameAt (s t : Settings) (name : String) : Prop :=
  s.toJson.get? name = t.toJson.get? name ∧
    (name = "to_dict" → s.isListable = t.isListable)

theorem SameAt.refl
    (s : Settings) (name : String) :
  s.SameAt s name
  := ⟨rfl, fun _ => rfl⟩

theorem toJson_get?
    (s : Settings) (name : String) :
  s.toJson.get? name =
    if "namespace" = name then some s.namespaceName
    else if "meta_model_namespace" = name then some s.metaNamespace
    else if "path_to_definitions" = name then s.definitionsPath
    else if "add_generation_comment" = name then some s.generationComment
    else if "json_indent" = name then some s.indent
    else if "typescript_interface_prefix" = name then some s.interfaceStart
    else none
  := by
  unfold toJson
  cases s.definitionsPath with
  | some path => rfl
  | none =>
    by_cases path : "path_to_definitions" = name
    · subst path
      rfl
    · simp only [path, if_false]
      rfl

/-- A setting that is changed has the value that it was given. -/
theorem get?_set
    {s t : Settings} {name : String} {value : Json} (h : s.set name value = .ok t) :
  t.toJson.get? name = (({} : Settings).toJson.get? name).map fun _ => value
  := by
  revert h
  fun_cases set s name value <;> rintro ⟨⟩
  case case8 => simp [toJson_get?]
  case case12 h₁ h₂ h₃ h₄ h₅ h₆ _ _ _ _ =>
    simp only [toJson_get?, Ne.symm h₁, Ne.symm h₂, Ne.symm h₃, Ne.symm h₄, Ne.symm h₅,
      Ne.symm h₆, if_false, Option.map_none]
  all_goals simp [toJson_get?]

/-- The settings of other names stay, unless all of them are replaced. -/
theorem set_sameAt
    {s t : Settings} {name other : String} {value : Json} (h : s.set name value = .ok t)
    (differ : other ≠ name) (single : name ≠ "__dict__") :
  t.SameAt s other
  := by
  revert h
  fun_cases set s name value <;> rintro ⟨⟩
  case case7 => exact ⟨by simp [toJson_get?], fun same => absurd same differ⟩
  case case8 => exact absurd rfl single
  all_goals simp [SameAt, toJson_get?, Ne.symm differ]

/-- Settings that agree at every name are the same. -/
theorem eq_of_sameAt
    {s t : Settings} (h : ∀ name, s.SameAt t name) :
  s = t
  := by
  have listable := (h "to_dict").2 rfl
  have same (name : String) := (h name).1
  simp only [toJson_get?] at same
  obtain ⟨_, _, _, _, _, _, _⟩ := s
  obtain ⟨_, _, _, _, _, _, _⟩ := t
  rw [mk.injEq]
  exact ⟨Option.some.inj (same "namespace"), Option.some.inj (same "meta_model_namespace"),
    same "path_to_definitions", Option.some.inj (same "add_generation_comment"),
    Option.some.inj (same "json_indent"), Option.some.inj (same "typescript_interface_prefix"),
    listable⟩

end Settings

namespace Generator

/-! ### Parts -/

/-- A part of a generator. -/
inductive Part where
  | document
  | setting (name : String)
  | format
  | warnings

/-- Two generators are the same in a part. -/
def SameAt (g h : Generator) : Part → Prop
  | .document => g.document = h.document
  | .setting name => g.settings.SameAt h.settings name
  | .format => g.format = h.format
  | .warnings => g.warnings = h.warnings

/-- Generators consist of their parts. -/
theorem eq_of_sameAt
    {g h : Generator} (same : ∀ p, g.SameAt h p) :
  g = h
  := by
  have document : g.document = h.document := same .document
  have settings : g.settings = h.settings :=
    Settings.eq_of_sameAt fun name => same (.setting name)
  have format : g.format = h.format := same .format
  have warnings : g.warnings = h.warnings := same .warnings
  cases g
  cases h
  simp_all

theorem SameAt.refl
    (g : Generator) (p : Part) :
  g.SameAt g p
  := by
  cases p with
  | setting name => exact Settings.SameAt.refl _ _
  | _ => rfl

theorem SameAt.trans
    {f g h : Generator} {p : Part} (left : f.SameAt g p) (right : g.SameAt h p) :
  f.SameAt h p
  := by
  cases p with
  | setting name =>
    exact ⟨left.1.trans right.1, fun same => (left.2 same).trans (right.2 same)⟩
  | _ => exact Eq.trans left right

/-- The parts that a step names.  A conversion is about the warnings only, and one name
stands for all settings. -/
def Step.Names : Step → Part → Prop
  | .generate, p | .infer, p => p = .warnings
  | .setSetting name _, p =>
    p = .setting name ∨ name = "__dict__" ∧ ∃ other, p = .setting other
  | .loadSettings _, p => ∃ name, p = .setting name
  | .setFormat _, p => p = .format
  | .setDocument _, p => p = .document

/-- Whether a step converts the document. -/
def Step.converts : Step → Bool
  | .generate | .infer => true
  | _ => false

/-! ### One step -/

theorem afterInference_sameAt
    {g : Generator} {events : List Event} {p : Part} (h : p ≠ .warnings) :
  (g.afterInference events).SameAt g p
  := by
  unfold afterInference
  split
  · cases p with
    | setting name => exact Settings.SameAt.refl _ _
    | warnings => exact absurd rfl h
    | _ => rfl
  · exact .refl _ _

/-- A step changes no part but those it names. -/
theorem step_sameAt
    {g : Generator} {s : Step} {p : Part} (h : ¬ s.Names p) :
  (g.step s).1.SameAt g p
  := by
  cases s with
  | generate | infer => exact afterInference_sameAt h
  | setSetting name value =>
    simp only [step]
    split
    next settings changed =>
      cases p with
      | setting other =>
        obtain ⟨differ, single⟩ := not_or.mp h
        exact Settings.set_sameAt changed (fun same => differ (congrArg Part.setting same))
          fun whole => single ⟨whole, other, rfl⟩
      | _ => rfl
    next => exact .refl _ _
  | loadSettings value =>
    simp only [step]
    split
    · cases p with
      | setting name => exact absurd ⟨name, rfl⟩ h
      | _ => rfl
    · exact .refl _ _
  | setFormat value =>
    simp only [step]
    split
    · cases p with
      | setting name => exact Settings.SameAt.refl _ _
      | format => exact absurd rfl h
      | _ => rfl
    · exact .refl _ _
  | setDocument value =>
    cases p with
    | document => exact absurd rfl h
    | setting name => exact Settings.SameAt.refl _ _
    | _ => rfl

/-- A step that fails without converting anything changes nothing. -/
theorem step_eq_self_of_error
    {g : Generator} {s : Step} {e : Failure} (h : ¬ s.converts)
    (failed : (g.step s).2 = .error e) :
  (g.step s).1 = g
  := by
  cases s with
  | generate | infer => exact absurd rfl h
  | setSetting | loadSettings | setFormat =>
    simp only [step] at failed ⊢
    split at failed
    · nomatch failed
    · rfl
  | setDocument value => nomatch failed

/-- Nothing is inferred without a namespace. -/
theorem inferWith_of_not_isSet
    {document : Json} {s : Settings} (h : ¬ s.namespaceName.isSet) :
  inferWith document s = .fail .namespaceMissing
  := by
  simp [inferWith, h]

/-- Without a namespace a conversion fails, and the generator stays as it is. -/
theorem step_of_not_isSet
    {g : Generator} {s : Step} (h : s.converts) (missing : ¬ g.settings.namespaceName.isSet) :
  g.step s = (g, .error .namespaceMissing)
  := by
  cases s with
  | generate | infer =>
    simp only [step, generateWith, afterInference, missing, inferWith_of_not_isSet missing]
    rfl
  | _ => nomatch h

/-! ### Generators built anew -/

/-- The generator that is built from the document, the settings and the format of one. -/
def anew (g : Generator) : Generator :=
  { document := g.document, settings := g.settings, format := g.format }

/-- Generators that are built from the same answer the same, and stay so. -/
theorem step_congr
    {g h : Generator} (same : g.anew = h.anew) (s : Step) :
  (g.step s).2 = (h.step s).2 ∧ (g.step s).1.anew = (h.step s).1.anew
  := by
  obtain ⟨document, settings, format, _⟩ := g
  obtain ⟨_, _, _, _⟩ := h
  obtain ⟨rfl, rfl, rfl⟩ : document = _ ∧ settings = _ ∧ format = _ := by
    simpa [anew] using same
  cases s with
  | generate | infer =>
    simp only [step, afterInference, true_and]
    split <;> rfl
  | setDocument => exact ⟨rfl, rfl⟩
  | setSetting | loadSettings | setFormat =>
    simp only [step]
    split <;> exact ⟨rfl, rfl⟩

/-- A generator and the one built anew are the same once an inference has started. -/
theorem step_eq_of_isSet
    {g h : Generator} {s : Step} (same : g.anew = h.anew) (converts : s.converts)
    (started : g.settings.namespaceName.isSet) :
  g.step s = h.step s
  := by
  obtain ⟨document, settings, format, _⟩ := g
  obtain ⟨_, _, _, _⟩ := h
  obtain ⟨rfl, rfl, rfl⟩ : document = _ ∧ settings = _ ∧ format = _ := by
    simpa [anew] using same
  cases s with
  | generate | infer => simp only [step, afterInference, started, if_true]
  | _ => nomatch converts

/-- A conversion leaves what a generator is built from. -/
theorem anew_of_converts
    {g : Generator} {s : Step} (h : s.converts) :
  (g.step s).1.anew = g.anew
  := by
  cases s with
  | generate | infer =>
    simp only [step, afterInference]
    split <;> rfl
  | _ => nomatch h

/-! ### Runs -/

/-- The generator after steps one after the other. -/
def after (g : Generator) (steps : List Step) : Generator :=
  steps.foldl (fun g s => (g.step s).1) g

/-- Steps are run one after the other. -/
theorem run_append
    (g : Generator) (before later : List Step) :
  g.run (before ++ later) = g.run before ++ (g.after before).run later
  := by
  induction before generalizing g with
  | nil => rfl
  | cons s before ih => exact congrArg _ (ih (g.step s).1)

/-- A run changes no part but those its steps name. -/
theorem after_sameAt
    {g : Generator} {steps : List Step} {p : Part} (h : ∀ s ∈ steps, ¬ s.Names p) :
  (g.after steps).SameAt g p
  := by
  induction steps generalizing g with
  | nil => exact .refl _ _
  | cons s steps ih =>
    rw [List.forall_mem_cons] at h
    exact (ih h.2).trans (step_sameAt h.1)

/-- Generators that are built from the same answer the same to all steps. -/
theorem run_congr
    {g h : Generator} (same : g.anew = h.anew) (steps : List Step) :
  (g.run steps).map Prod.fst = (h.run steps).map Prod.fst
  := by
  induction steps generalizing g h with
  | nil => rfl
  | cons s steps ih =>
    obtain ⟨answer, next⟩ := step_congr same s
    simp only [run, List.map_cons, answer, ih next]

/-- Conversions leave no trace in what a generator is built from. -/
theorem anew_after
    (g : Generator) (steps : List Step) :
  (g.after steps).anew = (g.after (steps.filter fun s => !s.converts)).anew
  := by
  suffices ∀ {g h : Generator}, g.anew = h.anew →
      (g.after steps).anew = (h.after (steps.filter fun s => !s.converts)).anew from this rfl
  induction steps with
  | nil => exact id
  | cons s steps ih =>
    intro g h same
    cases converts : s.converts with
    | true =>
      rw [List.filter_cons_of_neg (by simp [converts])]
      exact ih ((anew_of_converts converts).trans same)
    | false =>
      rw [List.filter_cons_of_pos (by simp [converts])]
      exact ih (step_congr same s).2

/-! ### No memory -/

/-- What a step does to a generator does not depend on what the generator has done. -/
structure Forgets (g : Generator) (s : Step) : Prop where
  /-- A conversion answers as that of a generator built anew. -/
  answer : s.converts → (g.step s).2 = (g.anew.step s).2
  /-- It leaves the warnings of that generator once an inference has started. -/
  started : s.converts → g.settings.namespaceName.isSet →
    (g.step s).1.warnings = (g.anew.step s).1.warnings
  /-- None starts without a namespace, and then the warnings stay. -/
  missing : s.converts → ¬ g.settings.namespaceName.isSet →
    (g.step s).2 = .error .namespaceMissing ∧ (g.step s).1.warnings = g.warnings
  /-- Parts that a step does not name stay. -/
  sameAt : ∀ p, ¬ s.Names p → (g.step s).1.SameAt g p
  /-- Without a conversion a step that fails changes nothing. -/
  failed : ∀ e, ¬ s.converts → (g.step s).2 = .error e → (g.step s).1 = g

/-- Each generator forgets what it has done at the next step. -/
theorem forgets
    (g : Generator) (s : Step) :
  g.Forgets s
  := by
  have same : g.anew = g.anew.anew := rfl
  exact {
    answer _ := (step_congr same s).1
    started converts set := by rw [step_eq_of_isSet same converts set]
    missing converts unset := by simp [step_of_not_isSet converts unset]
    sameAt _ := step_sameAt
    failed _ := step_eq_self_of_error }

/-- A generator has no memory, whatever steps came before: it forgets them at the next
step, it answers to all further steps as one that is built anew, what it is built from
is what it would be without the conversions so far, and the parts that no step named are as
they were. -/
theorem forgets_after
    (g : Generator) (before : List Step) (s : Step) (later : List Step) :
  g.run (before ++ s :: later) =
      g.run before ++ (((g.after before).step s).2, ((g.after before).step s).1.warnings) ::
        ((g.after before).step s).1.run later ∧
    (g.after before).Forgets s ∧
    ((g.after before).run (s :: later)).map Prod.fst =
      ((g.after before).anew.run (s :: later)).map Prod.fst ∧
    (g.after before).anew = (g.after (before.filter fun s => !s.converts)).anew ∧
    ∀ p, (∀ s ∈ before, ¬ s.Names p) → (g.after before).SameAt g p
  := by
  have same : (g.after before).anew = (g.after before).anew.anew := rfl
  exact ⟨run_append g before (s :: later), forgets _ s, run_congr same _, anew_after g before,
    fun _ => after_sameAt⟩

end Generator

end ConceptModel

import ConceptModel.Report

/-!
# Outcomes of reports

When a report of several parts has a result, and when two reports are similar.  A report
`Finishes` unless it was given up because references lead on without end.  A `Similarity`
is a relation between reports that holds of every report that finishes and itself, and
that a sequence of reports inherits from its parts.  Equality is one; so is `Below`, by
which a report that finishes is equal to the other one; and so is to finish.
-/

namespace ConceptModel.Report

variable {α β : Type}

/-! ### Results -/

/-- What is simply given is the outcome. -/
@[simp]
theorem pure_outcome
    (a : α) :
  (Pure.pure a : Report α).outcome = .ok a
  := rfl

/-- A failure is its own outcome. -/
@[simp]
theorem fail_outcome
    (e : Failure) :
  (fail e : Report α).outcome = .error e
  := rfl

@[simp]
theorem warn_outcome
    (w : Warning) :
  (warn w).outcome = .ok ()
  := rfl

@[simp]
theorem note_outcome
    (n : Note) :
  (note n).outcome = .ok ()
  := rfl

/-- A result that is lifted is the outcome. -/
@[simp]
theorem ofExcept_outcome
    (x : Except Failure α) :
  (ofExcept x).outcome = x
  := by
  cases x <;> rfl

/-- A lifted option has an outcome just in case there is something in it. -/
@[simp]
theorem ofOption_outcome_eq_ok
    {e : Failure} {x : Option α} {a : α} :
  (ofOption e x).outcome = .ok a ↔ x = some a
  := by
  cases x <;> simp [ofOption, pure, fail]

/-- A sequence has a result when its first part has one, and the second part has one after
that. -/
@[simp]
theorem bind_outcome_eq_ok
    {r : Report α} {f : α → Report β} {b : β} :
  (r >>= f).outcome = .ok b ↔ ∃ a, r.outcome = .ok a ∧ (f a).outcome = .ok b
  := by
  obtain ⟨events, outcome⟩ := r
  cases outcome <;> simp [Bind.bind, bind]

/-- An outcome that can be evaluated to a result is one. -/
theorem exists_outcome_eq_ok
    {r : Report α} (h : r.outcome.toOption.isSome) :
  ∃ a, r.outcome = .ok a
  := by
  cases same : r.outcome with
  | error e => simp [same, Except.toOption] at h
  | ok a => exact ⟨a, rfl⟩

theorem outcome_eq_ok_of_toOption
    {r : Report α} {a : α} (h : r.outcome.toOption = some a) :
  r.outcome = .ok a
  := by
  cases same : r.outcome with
  | error e => simp [same, Except.toOption] at h
  | ok b => simpa [same, Except.toOption] using h

/-! ### Warnings -/

/-- The messages of the warnings of a report. -/
def warnings (r : Report α) : List String := warningMessages r.events

/-- A part that has a result is followed by the events of the next one. -/
theorem bind_events
    {r : Report α} {f : α → Report β} {a : α} (h : r.outcome = .ok a) :
  (r >>= f).events = r.events ++ (f a).events
  := by
  simp [Bind.bind, bind, h]

/-- A last step without events adds none. -/
theorem bind_events_of_pure
    (r : Report α) (f : α → β) :
  (r >>= fun a => Pure.pure (f a)).events = r.events
  := by
  obtain ⟨events, outcome⟩ := r
  cases outcome <;> simp [Bind.bind, bind, Pure.pure, pure]

/-- The warnings of two steps are those of the first and then those of the second. -/
theorem bind_warnings
    {r : Report α} {f : α → Report β} {a : α} (h : r.outcome = .ok a) :
  (r >>= f).warnings = r.warnings ++ (f a).warnings
  := by
  simp only [warnings, warningMessages, bind_events h, List.filterMap_append]

/-- A last step without events adds no warnings. -/
theorem bind_warnings_of_pure
    (r : Report α) (f : α → β) :
  (r >>= fun a => Pure.pure (f a)).warnings = r.warnings
  := by
  simp only [warnings, bind_events_of_pure]

/-- Notes are no warnings. -/
@[simp]
theorem note_warnings
    (n : Note) :
  (note n).warnings = []
  := rfl

@[simp]
theorem pure_warnings
    (a : α) :
  (Pure.pure a : Report α).warnings = []
  := rfl

@[simp]
theorem ofExcept_warnings
    (x : Except Failure α) :
  (ofExcept x).warnings = []
  := by
  cases x <;> rfl

@[simp]
theorem ofOption_warnings
    (e : Failure) (x : Option α) :
  (ofOption e x).warnings = []
  := by
  cases x <;> rfl

/-- A warning shows by its message. -/
@[simp]
theorem warn_warnings
    (w : Warning) :
  (warn w).warnings = [w.message]
  := rfl

/-- A sequence of parts without warnings has none. -/
theorem bind_warnings_eq_nil
    {r : Report α} {f : α → Report β} (hr : r.warnings = []) (hf : ∀ a, (f a).warnings = []) :
  (r >>= f).warnings = []
  := by
  cases held : r.outcome with
  | error e => simpa [Bind.bind, bind, held, warnings] using hr
  | ok a => rw [bind_warnings held, hr, hf a, List.nil_append]

/-! ### Finishing -/

/-- Whether a computation was not given up because references lead on without end. -/
def Finishes (r : Report α) : Prop := r.outcome ≠ .error .endlessReferences

/-- What has a result has come to its end. -/
theorem finishes_of_outcome_eq_ok
    {r : Report α} {a : α} (h : r.outcome = .ok a) :
  r.Finishes
  := by
  simp [Finishes, h]

theorem finishes_pure
    (a : α) :
  (Pure.pure a : Report α).Finishes
  := finishes_of_outcome_eq_ok (pure_outcome a)

theorem finishes_warn
    (w : Warning) :
  (warn w).Finishes
  := finishes_of_outcome_eq_ok (warn_outcome w)

theorem finishes_note
    (n : Note) :
  (note n).Finishes
  := finishes_of_outcome_eq_ok (note_outcome n)

theorem finishes_fail
    {e : Failure} (h : e ≠ .endlessReferences) :
  (fail e : Report α).Finishes
  := by
  simpa [Finishes] using h

theorem finishes_ofExcept
    {x : Except Failure α} (h : x ≠ .error .endlessReferences) :
  (ofExcept x).Finishes
  := by
  simpa [Finishes] using h

theorem finishes_ofOption
    {e : Failure} (h : e ≠ .endlessReferences) (x : Option α) :
  (ofOption e x).Finishes
  := by
  cases x with
  | none => apply finishes_fail h
  | some a => apply finishes_pure a

/-- Two steps come to their end if each does, the second on the result of the first. -/
theorem finishes_bind
    {r : Report α} {f : α → Report β} (hr : r.Finishes)
    (hf : ∀ a, r.outcome = .ok a → (f a).Finishes) :
  (r >>= f).Finishes
  := by
  obtain ⟨events, outcome⟩ := r
  cases outcome with
  | error e => simpa [Finishes, Bind.bind, bind] using hr
  | ok a => exact hf a rfl

/-- The first of two steps that come to their end does so. -/
theorem finishes_of_bind
    {r : Report α} {f : α → Report β} (h : (r >>= f).Finishes) :
  r.Finishes
  := by
  obtain ⟨events, outcome⟩ := r
  cases outcome with
  | error e => simpa [Finishes, Bind.bind, bind] using h
  | ok a => exact finishes_of_outcome_eq_ok rfl

/-! ### Failing -/

/-- Whether a computation fails for no other causes. -/
def FailsOnly (p : Failure → Prop) (r : Report α) : Prop :=
  match r.outcome with
  | .ok _ => True
  | .error e => p e

section

variable {p : Failure → Prop}

/-- What has a result fails with nothing. -/
theorem failsOnly_of_outcome_eq_ok
    {r : Report α} {a : α} (h : r.outcome = .ok a) :
  r.FailsOnly p
  := by
  simp [FailsOnly, h]

/-- A failure that is seen is one of those that may be. -/
theorem FailsOnly.of_outcome
    {r : Report α} {e : Failure} (h : r.FailsOnly p) (failed : r.outcome = .error e) :
  p e
  := by
  rwa [FailsOnly, failed] at h

theorem failsOnly_pure
    (a : α) :
  (Pure.pure a : Report α).FailsOnly p
  := failsOnly_of_outcome_eq_ok (pure_outcome a)

theorem failsOnly_fail
    {e : Failure} (h : p e) :
  (fail e : Report α).FailsOnly p
  := h

theorem failsOnly_ofExcept
    {x : Except Failure α} (h : ∀ e, x = .error e → p e) :
  (ofExcept x).FailsOnly p
  := by
  cases x with
  | error e => exact h e rfl
  | ok a => exact failsOnly_pure a

/-- Two steps fail only as allowed if each does, the second on the result of the first. -/
theorem failsOnly_bind
    {r : Report α} {f : α → Report β} (hr : r.FailsOnly p)
    (hf : ∀ a, r.outcome = .ok a → (f a).FailsOnly p) :
  (r >>= f).FailsOnly p
  := by
  obtain ⟨events, outcome⟩ := r
  cases outcome with
  | error e => exact hr
  | ok a => exact hf a rfl

/-- What follows a part that has a result decides. -/
theorem failsOnly_bind_of_outcome_eq_ok
    {r : Report α} {f : α → Report β} {a : α} (hr : r.outcome = .ok a)
    (hf : (f a).FailsOnly p) :
  (r >>= f).FailsOnly p
  := by
  apply failsOnly_bind (failsOnly_of_outcome_eq_ok hr)
  intro a' ha
  obtain rfl : a = a' := by simpa using hr.symm.trans ha
  exact hf

end

/-! ### Agreement -/

/-- Whether two reports have the same events, and the same failure or results that are
related. -/
inductive Agree (R : α → β → Prop) : Report α → Report β → Prop where
  | ok {events : List Event} {a : α} {b : β} (related : R a b) :
      Agree R ⟨events, .ok a⟩ ⟨events, .ok b⟩
  | error {events : List Event} {e : Failure} : Agree R ⟨events, .error e⟩ ⟨events, .error e⟩

section

variable {R : α → β → Prop}

theorem agree_pure
    {a : α} {b : β} (h : R a b) :
  Agree R (Pure.pure a) (Pure.pure b)
  := .ok h

/-- A report agrees with itself if each result is related to itself. -/
theorem agree_refl
    {R : α → α → Prop} (r : Report α) (h : ∀ a, R a a) :
  Agree R r r
  := by
  obtain ⟨events, outcome⟩ := r
  cases outcome with
  | error e => exact .error
  | ok a => exact .ok (h a)

/-- The results of reports that agree are related. -/
theorem Agree.related
    {r : Report α} {s : Report β} {a : α} {b : β} (h : Agree R r s) (hr : r.outcome = .ok a)
    (hs : s.outcome = .ok b) :
  R a b
  := by
  cases h with
  | ok related =>
    obtain rfl := Except.ok.inj hr
    obtain rfl := Except.ok.inj hs
    exact related
  | error => simp at hr

/-- Reports that agree still do under a relation that holds of all results so related. -/
theorem Agree.mono
    {S : α → β → Prop} {r : Report α} {s : Report β} (h : Agree R r s)
    (weaker : ∀ a b, r.outcome = .ok a → s.outcome = .ok b → R a b → S a b) :
  Agree S r s
  := by
  cases h with
  | ok related => exact .ok (weaker _ _ rfl rfl related)
  | error => exact .error

/-- Agreement passes on to the next steps if they agree on all related results. -/
theorem Agree.bind
    {γ δ : Type} {S : γ → δ → Prop} {r : Report α} {s : Report β} {f : α → Report γ}
    {g : β → Report δ} (h : Agree R r s)
    (next : ∀ a b, r.outcome = .ok a → s.outcome = .ok b → R a b → Agree S (f a) (g b)) :
  Agree S (r >>= f) (s >>= g)
  := by
  cases h with
  | error => exact .error
  | @ok events a b related =>
    have later := next a b rfl rfl related
    simp only [Bind.bind, Report.bind]
    generalize f a = x at later
    generalize g b = y at later
    cases later with
    | ok related => exact .ok related
    | error => exact .error

/-- Two steps after the same first one agree if they do on its result. -/
theorem agree_bind
    {γ : Type} {S : β → γ → Prop} {r : Report α} {f : α → Report β} {g : α → Report γ}
    (next : ∀ a, r.outcome = .ok a → Agree S (f a) (g a)) :
  Agree S (r >>= f) (r >>= g)
  := by
  apply (agree_refl r fun a => Eq.refl a).bind
  rintro a _ held - rfl
  exact next a held

end

/-! ### Similarity -/

/-- A relation between reports that holds of every report that finishes and itself, and
that a sequence inherits from its parts. -/
structure Similarity (Rel : {α : Type} → Report α → Report α → Prop) : Prop where
  refl : ∀ {α : Type} {r : Report α}, r.Finishes → Rel r r
  bind : ∀ {α β : Type} {r s : Report α} {f g : α → Report β}, Rel r s →
    (∀ a, r.outcome = .ok a → Rel (f a) (g a)) → Rel (r >>= f) (s >>= g)

/-- Whether the second report is the first one, should that finish. -/
def Below (r s : Report α) : Prop := r.Finishes → s = r

/-- Equal steps that go on equally on their results are equal. -/
theorem bind_congr
    {r s : Report α} {f g : α → Report β} (hr : r = s)
    (hf : ∀ a, r.outcome = .ok a → f a = g a) :
  r >>= f = s >>= g
  := by
  subst hr
  obtain ⟨events, outcome⟩ := r
  cases outcome with
  | error e => rfl
  | ok a => simp [Bind.bind, bind, hf a rfl]

/-- Equality is kept by steps one after the other. -/
theorem similarity_eq :
  Similarity (fun r s => r = s)
  where
  refl _ := rfl
  bind := bind_congr

/-- Equality of reports that come to an end is kept by steps one after the other. -/
theorem similarity_below :
  Similarity Below
  where
  refl _ _ := rfl
  bind := by
    intro α β r s f g hr hf h
    have hs := hr (finishes_of_bind h)
    subst hs
    apply bind_congr rfl
    intro a ha
    apply hf a ha
    intro he
    apply h
    obtain ⟨events, outcome⟩ := s
    subst ha
    exact he

/-- Coming to an end is kept by steps one after the other. -/
theorem similarity_finishes :
  Similarity (fun r _ => r.Finishes)
  where
  refl h := h
  bind := finishes_bind

end ConceptModel.Report

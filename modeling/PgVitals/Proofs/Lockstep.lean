import PgVitals.Proofs.Steps

/-!
# Steps in lockstep

Two steps over different states run in lockstep when, from related states, they end in the same way
with related values and leave related states.  The lemmas follow the combinators, so two programs
written with the same text over related parts are in lockstep.
-/

namespace PgVitals

variable {σ σ' τ τ' α α' β β' : Type}

/-- The same end, with related values. -/
inductive Outcome.Related (V : α → α' → Prop) : Outcome α → Outcome α' → Prop where
  | done {value : α} {value' : α'} (h : V value value') : Related V (.done value) (.done value')
  | failed (fault : Fault) : Related V (.failed fault) (.failed fault)
  | crashed (note : Option String) : Related V (.crashed note) (.crashed note)

namespace Outcome

variable {V : α → α' → Prop} {outcome : Outcome α} {outcome' : Outcome α'}

theorem related_eq_iff {outcome outcome' : Outcome α} :
    Related Eq outcome outcome' ↔ outcome = outcome' := by
  constructor
  · rintro (⟨rfl⟩ | _ | _) <;> rfl
  · rintro rfl
    cases outcome with
    | done value => exact .done rfl
    | failed fault => exact .failed fault
    | crashed note => exact .crashed note

theorem related_of_map_eq {β : Type} {f : α → β} {f' : α' → β}
    (h : outcome.map f = outcome'.map f') :
    Related (fun value value' => f value = f' value') outcome outcome' := by
  cases outcome' with
  | done value' =>
    cases outcome with
    | done value => exact .done (Outcome.done.inj h)
    | failed fault => cases h
    | crashed note => cases h
  | failed fault =>
    cases outcome <;> cases h
    exact .failed fault
  | crashed note =>
    cases outcome <;> cases h
    exact .crashed note

theorem Related.isDone_eq (h : Related V outcome outcome') : outcome.isDone = outcome'.isDone := by
  cases h <;> rfl

theorem Related.mapFault (h : Related V outcome outcome') (f : Fault → Fault) :
    Related V (outcome.mapFault f) (outcome'.mapFault f) := by
  cases h with
  | done h => exact .done h
  | failed fault => exact .failed _
  | crashed note => exact .crashed note

theorem Related.closedWith (h : Related V outcome outcome') (closing : Outcome Unit) :
    Related V (outcome.closedWith closing) (outcome'.closedWith closing) := by
  cases h with
  | done h =>
    -- A crash of the closing replaces what came before, on both sides; a failure of it is dropped.
    cases closing with
    | crashed note => exact .crashed note
    | done value => exact .done h
    | failed fault => exact .done h
  | failed fault =>
    cases closing with
    | crashed note => exact .crashed note
    | done value => exact .failed fault
    | failed _ => exact .failed fault
  | crashed note =>
    cases closing <;> exact .crashed note

end Outcome

namespace Step

/-- From related states the steps end in the same way, with related values and states. -/
def Lockstep (R : σ → σ' → Prop) (V : α → α' → Prop) (step : Step σ α) (step' : Step σ' α') :
    Prop :=
  ∀ s s', R s s' → Outcome.Related V (step s).1 (step' s').1 ∧ R (step s).2 (step' s').2

variable {R : σ → σ' → Prop} {V : α → α' → Prop} {W : β → β' → Prop}

theorem lockstep_finish {outcome : Outcome α} {outcome' : Outcome α'}
    (h : Outcome.Related V outcome outcome') :
    Lockstep R V (finish outcome) (finish outcome') := fun _ _ hR => ⟨h, hR⟩

theorem lockstep_pure {value : α} {value' : α'} (h : V value value') :
    Lockstep R V (pure value) (pure value') := lockstep_finish (.done h)

theorem lockstep_fail (fault : Fault) : Lockstep R V (fail fault) (fail fault) :=
  lockstep_finish (.failed fault)

theorem lockstep_ofExcept (result : Except Fault α) :
    Lockstep R Eq (ofExcept result) (ofExcept result) :=
  lockstep_finish (Outcome.related_eq_iff.2 rfl)

theorem lockstep_update {f : σ → σ} {f' : σ' → σ'} (h : ∀ s s', R s s' → R (f s) (f' s')) :
    Lockstep R Eq (update f) (update f') := fun s s' hR => ⟨.done rfl, h s s' hR⟩

theorem Lockstep.bind {step : Step σ α} {step' : Step σ' α'} {next : α → Step σ β}
    {next' : α' → Step σ' β'} (h : Lockstep R V step step')
    (hnext : ∀ value value', V value value' → Lockstep R W (next value) (next' value')) :
    Lockstep R W (step >>= next) (step' >>= next') := by
  intro s s' hR
  obtain ⟨hended, hafter⟩ := h s s' hR
  rcases hrun : step s with ⟨outcome, after⟩
  rcases hrun' : step' s' with ⟨outcome', after'⟩
  rw [hrun, hrun'] at hended hafter
  cases hended with
  | done hvalue =>
    rw [bind_of_done hrun, bind_of_done hrun']
    exact hnext _ _ hvalue _ _ hafter
  | failed fault =>
    rw [bind_of_failed hrun, bind_of_failed hrun']
    exact ⟨.failed fault, hafter⟩
  | crashed note =>
    rw [bind_of_crashed hrun, bind_of_crashed hrun']
    exact ⟨.crashed note, hafter⟩

theorem Lockstep.attempt {step : Step σ α} {step' : Step σ' α'} (h : Lockstep R V step step') :
    Lockstep R (Outcome.Related V) step.attempt step'.attempt := fun s s' hR =>
  ⟨.done (h s s' hR).1, (h s s' hR).2⟩

theorem Lockstep.mapFault {step : Step σ α} {step' : Step σ' α'} (h : Lockstep R V step step')
    (f : Fault → Fault) : Lockstep R V (step.mapFault f) (step'.mapFault f) := fun s s' hR =>
  ⟨(h s s' hR).1.mapFault f, (h s s' hR).2⟩

theorem Lockstep.quietly {step : Step σ Unit} {step' : Step σ' Unit}
    (h : Lockstep R Eq step step') :
    Lockstep R Eq step.quietly step'.quietly := by
  intro s s' hR
  obtain ⟨hended, hafter⟩ := h s s' hR
  rw [quietly_eq, quietly_eq, Outcome.related_eq_iff.1 hended]
  exact ⟨Outcome.related_eq_iff.2 rfl, hafter⟩

/-- Faults of the clean-ups do not count, so only their crashes need to be alike. -/
theorem Lockstep.ensuring_of_quietly {step : Step σ α} {step' : Step σ' α'} {cleanup : Step σ Unit}
    {cleanup' : Step σ' Unit} (h : Lockstep R V step step')
    (hcleanup : Lockstep R Eq cleanup.quietly cleanup'.quietly) :
    Lockstep R V (step.ensuring cleanup) (step'.ensuring cleanup') := by
  intro s s' hR
  obtain ⟨hended, hafter⟩ := h s s' hR
  obtain ⟨hclosing, hfinal⟩ := hcleanup _ _ hafter
  -- Of the cleaning up only a crash is seen afterwards, which the quiet cleaning up keeps.
  rw [quietly_eq, quietly_eq] at hclosing hfinal
  have hclosing : (Outcome.done ()).closedWith (cleanup (step s).2).1 =
      (Outcome.done ()).closedWith (cleanup' (step' s').2).1 := Outcome.related_eq_iff.1 hclosing
  rw [ensuring_eq, ensuring_eq, ← Outcome.closedWith_quieted (step s).1,
    ← Outcome.closedWith_quieted (step' s').1, hclosing]
  exact ⟨hended.closedWith _, hfinal⟩

theorem Lockstep.ensuring {step : Step σ α} {step' : Step σ' α'} {cleanup : Step σ Unit}
    {cleanup' : Step σ' Unit} (h : Lockstep R V step step')
    (hcleanup : Lockstep R Eq cleanup cleanup') :
    Lockstep R V (step.ensuring cleanup) (step'.ensuring cleanup') :=
  h.ensuring_of_quietly hcleanup.quietly

theorem Lockstep.undoing {step : Step σ α} {step' : Step σ' α'} {undo : Step σ Unit}
    {undo' : Step σ' Unit} (h : Lockstep R V step step') (hundo : Lockstep R Eq undo undo') :
    Lockstep R V (step.undoing undo) (step'.undoing undo') := by
  intro s s' hR
  obtain ⟨hended, hafter⟩ := h s s' hR
  rw [undoing_eq, undoing_eq]
  rcases hrun : step s with ⟨outcome, after⟩
  rcases hrun' : step' s' with ⟨outcome', after'⟩
  rw [hrun, hrun'] at hended hafter
  cases hended with
  | done hvalue => exact ⟨.done hvalue, hafter⟩
  | failed fault =>
    obtain ⟨hundone, hfinal⟩ := hundo _ _ hafter
    refine ⟨?_, hfinal⟩
    change Outcome.Related V ((Outcome.failed fault).closedWith _)
      ((Outcome.failed fault).closedWith _)
    rw [Outcome.related_eq_iff.1 hundone]
    exact (Outcome.Related.failed fault).closedWith _
  | crashed note => exact ⟨.crashed note, hafter⟩

/-- What one of the steps keeps by itself may be told of the related states as well. -/
theorem Lockstep.keeping {I : σ → Prop} {step : Step σ α} {step' : Step σ' α'}
    (h : Lockstep R V step step') (hkeeps : Keeps I step) :
    Lockstep (fun s s' => I s ∧ R s s') V step step' := fun s s' ⟨hI, hR⟩ =>
  ⟨(h s s' hR).1, hkeeps s hI, (h s s' hR).2⟩

theorem Lockstep.on {P : τ → τ' → Prop} {part : σ → τ} {part' : σ' → τ'} {put : τ → σ → σ}
    {put' : τ' → σ' → σ'} {step : Step τ α} {step' : Step τ' α'} (h : Lockstep P V step step')
    (hpart : ∀ s s', R s s' → P (part s) (part' s'))
    (hput : ∀ s s' t t', R s s' → P t t' → R (put t s) (put' t' s')) :
    Lockstep R V (step.on part put) (step'.on part' put') := by
  intro s s' hR
  obtain ⟨hended, hafter⟩ := h _ _ (hpart s s' hR)
  exact ⟨hended, hput s s' _ _ hR hafter⟩

end Step

end PgVitals

import PgVitals.Step

/-!
# What steps keep

An invariant that every part of a step keeps is kept by the step, whichever way its parts end.
The lemmas follow the combinators, so an invariant of a program is read off its text.
-/

namespace PgVitals

/-- A result with its value changed is a value if there was one to change. -/
theorem Except.map_eq_ok_iff {ε α β : Type} {f : α → β} {result : Except ε α} {value : β} :
    result.map f = .ok value ↔ ∃ given, result = .ok given ∧ f given = value := by
  cases result <;> simp [Except.map]

theorem Except.bind_eq_ok_iff {ε α β : Type} {next : α → Except ε β} {result : Except ε α}
    {value : β} :
    result.bind next = .ok value ↔ ∃ given, result = .ok given ∧ next given = .ok value := by
  cases result <;> simp [Except.bind]

namespace Outcome

variable {α : Type}

/-- How an operation ends whose clean-up ended as given: faults of the clean-up do not count, and
of two crashes the first one shows. -/
def closedWith : Outcome α → Outcome Unit → Outcome α
  | crashed note, crashed _ => crashed note
  | _, crashed note => crashed note
  | outcome, _ => outcome

def isCrashed : Outcome α → Bool
  | crashed _ => true
  | _ => false

@[simp] theorem isCrashed_done (value : α) : (done value).isCrashed = false := rfl

@[simp] theorem isCrashed_failed (fault : Fault) : (failed fault : Outcome α).isCrashed = false :=
  rfl

@[simp] theorem isCrashed_crashed (note : Option String) :
    (crashed note : Outcome α).isCrashed = true := rfl

theorem closedWith_of_not_crashed (outcome : Outcome α) {closing : Outcome Unit}
    (h : closing.isCrashed = false) : outcome.closedWith closing = outcome := by
  cases closing with
  | crashed note => simp [isCrashed] at h
  | done value => cases outcome <;> rfl
  | failed fault => cases outcome <;> rfl

@[simp] theorem isCrashed_closedWith (outcome : Outcome α) (closing : Outcome Unit) :
    (outcome.closedWith closing).isCrashed = (outcome.isCrashed || closing.isCrashed) := by
  cases closing <;> cases outcome <;> rfl

@[simp] theorem isCrashed_map {β : Type} (f : α → β) (outcome : Outcome α) :
    (outcome.map f).isCrashed = outcome.isCrashed := by
  cases outcome <;> rfl

@[simp] theorem isCrashed_mapFault (f : Fault → Fault) (outcome : Outcome α) :
    (outcome.mapFault f).isCrashed = outcome.isCrashed := by
  cases outcome <;> rfl

/-- A fault of the clean-up may as well not have been there. -/
theorem closedWith_quieted (outcome : Outcome α) (closing : Outcome Unit) :
    outcome.closedWith ((done ()).closedWith closing) = outcome.closedWith closing := by
  cases closing <;> cases outcome <;> rfl

theorem map_closedWith {β : Type} (f : α → β) (outcome : Outcome α) (closing : Outcome Unit) :
    (outcome.closedWith closing).map f = (outcome.map f).closedWith closing := by
  cases closing <;> cases outcome <;> rfl

theorem exists_of_isDone {outcome : Outcome α} (h : outcome.isDone = true) :
    ∃ value, outcome = done value := by
  cases outcome with
  | done value => exact ⟨value, rfl⟩
  | failed fault => simp [isDone] at h
  | crashed note => simp [isDone] at h

theorem isDone_closedWith_of_not_done {outcome : Outcome α} (h : outcome.isDone = false)
    (closing : Outcome Unit) : (outcome.closedWith closing).isDone = false := by
  cases closing <;> cases outcome <;> simp_all [closedWith, isDone]

theorem isDone_map {β : Type} (f : α → β) (outcome : Outcome α) :
    (outcome.map f).isDone = outcome.isDone := by
  cases outcome <;> rfl

theorem isDone_mapFault (f : Fault → Fault) (outcome : Outcome α) :
    (outcome.mapFault f).isDone = outcome.isDone := by
  cases outcome <;> rfl

end Outcome

namespace Step

variable {σ τ α β : Type} {I : σ → Prop}

/-! ## Running a sequence -/

theorem bind_of_done {step : Step σ α} {next : α → Step σ β} {s s' : σ} {value : α}
    (h : step s = (.done value, s')) : (step >>= next) s = next value s' := by
  simp only [bind, h]

theorem bind_of_failed {step : Step σ α} {next : α → Step σ β} {s s' : σ} {fault : Fault}
    (h : step s = (.failed fault, s')) : (step >>= next) s = (.failed fault, s') := by
  simp only [bind, h]

theorem bind_of_crashed {step : Step σ α} {next : α → Step σ β} {s s' : σ}
    {note : Option String} (h : step s = (.crashed note, s')) :
    (step >>= next) s = (.crashed note, s') := by
  simp only [bind, h]

/-- A sequence whose last part gives no value gives none. -/
theorem isDone_bind_of_next {next : α → Step σ β} (h : ∀ value s, (next value s).1.isDone = false)
    (step : Step σ α) (s : σ) : ((step >>= next) s).1.isDone = false := by
  rcases hstep : step s with ⟨value | fault | note, after⟩
  · rw [bind_of_done hstep]
    exact h value after
  · rw [bind_of_failed hstep]
    rfl
  · rw [bind_of_crashed hstep]
    rfl

/-! ## Invariants -/

/-- The step leads from a state with the invariant to a state with the invariant. -/
def Keeps (I : σ → Prop) (step : Step σ α) : Prop := ∀ s, I s → I (step s).2

theorem keeps_pure (value : α) : Keeps I (pure value : Step σ α) := fun _ h => h

theorem keeps_finish (outcome : Outcome α) : Keeps I (finish outcome : Step σ α) := fun _ h => h

theorem keeps_fail (fault : Fault) : Keeps I (fail fault : Step σ α) := keeps_finish _

theorem keeps_ofExcept (result : Except Fault α) : Keeps I (ofExcept result : Step σ α) :=
  keeps_finish _

theorem keeps_state : Keeps I (state : Step σ σ) := fun _ h => h

theorem keeps_update {f : σ → σ} (h : ∀ s, I s → I (f s)) : Keeps I (update f) := h

theorem Keeps.bind {step : Step σ α} {next : α → Step σ β} (h : Keeps I step)
    (hnext : ∀ value, Keeps I (next value)) : Keeps I (step >>= next) := by
  intro s hs
  have hstep := h s hs
  rcases hrun : step s with ⟨value | fault | note, s'⟩ <;> rw [hrun] at hstep
  · rw [bind_of_done hrun]
    exact hnext value s' hstep
  · rw [bind_of_failed hrun]
    exact hstep
  · rw [bind_of_crashed hrun]
    exact hstep

theorem Keeps.attempt {step : Step σ α} (h : Keeps I step) : Keeps I step.attempt := h

theorem Keeps.mapFault {step : Step σ α} (h : Keeps I step) (f : Fault → Fault) :
    Keeps I (step.mapFault f) := h

theorem ensuring_eq (step : Step σ α) (cleanup : Step σ Unit) (s : σ) :
    step.ensuring cleanup s =
      ((step s).1.closedWith (cleanup (step s).2).1, (cleanup (step s).2).2) := by
  rcases hstep : step s with ⟨outcome, after⟩
  rcases hcleanup : cleanup after with ⟨closing, final⟩
  simp only [ensuring, hstep, hcleanup]
  cases closing <;> cases outcome <;> rfl

theorem quietly_eq (step : Step σ Unit) (s : σ) :
    step.quietly s = ((Outcome.done ()).closedWith (step s).1, (step s).2) :=
  ensuring_eq (pure ()) step s

theorem Keeps.ensuring {step : Step σ α} {cleanup : Step σ Unit} (h : Keeps I step)
    (hcleanup : Keeps I cleanup) : Keeps I (step.ensuring cleanup) := by
  intro s hs
  rw [ensuring_eq]
  exact hcleanup _ (h s hs)

theorem undoing_eq (step : Step σ α) (undo : Step σ Unit) (s : σ) :
    step.undoing undo s =
      match step s with
      | (.failed fault, after) => ((Outcome.failed fault).closedWith (undo after).1, (undo after).2)
      | ended => ended := by
  rcases hstep : step s with ⟨outcome, after⟩
  cases outcome with
  | failed fault =>
    simp only [undoing, hstep, ensuring_eq]
    rfl
  | done value => simp only [undoing, hstep]
  | crashed note => simp only [undoing, hstep]

theorem undoing_of_done {step : Step σ α} {undo : Step σ Unit} {s after : σ} {value : α}
    (h : step s = (.done value, after)) : step.undoing undo s = (.done value, after) := by
  rw [undoing_eq, h]

/-- What undoes a step does not make up for its fault. -/
theorem isDone_undoing (step : Step σ α) (undo : Step σ Unit) (s : σ) :
    (step.undoing undo s).1.isDone = (step s).1.isDone := by
  rw [undoing_eq]
  rcases step s with ⟨value | fault | note, after⟩
  · rfl
  · exact Outcome.isDone_closedWith_of_not_done rfl _
  · rfl

theorem Keeps.undoing {step : Step σ α} {undo : Step σ Unit} (h : Keeps I step)
    (hundo : Keeps I undo) : Keeps I (step.undoing undo) := by
  intro s hs
  have hstep := h s hs
  rw [undoing_eq]
  rcases hrun : step s with ⟨value | fault | note, after⟩ <;> rw [hrun] at hstep
  · exact hstep
  · exact hundo after hstep
  · exact hstep

end Step

end PgVitals

import PgVitals.Collector.Basic
import PgVitals.Proofs.Lockstep

/-!
# Tasks in lockstep

What two tasks have in common when they run on related sites: they end in the same way, emit the
same samples, use the random source alike and leave related sites.
-/

namespace PgVitals.Task

variable {σ τ σ' τ' α α' β β' : Type}

/-! ## Running a sequence -/

section

variable {task : Task σ τ α} {next : α → Task σ τ β} {b after : Bench σ τ} {samples : List Sample}

theorem bind_of_done {value : α} (h : task b = (.done value, samples, after)) :
    (task >>= next) b =
      ((next value after).1, samples ++ (next value after).2.1, (next value after).2.2) := by
  simp only [bind, h]

theorem bind_of_failed {fault : Fault} (h : task b = (.failed fault, samples, after)) :
    (task >>= next) b = (.failed fault, samples, after) := by
  simp only [bind, h]

theorem bind_of_crashed {note : Option String} (h : task b = (.crashed note, samples, after)) :
    (task >>= next) b = (.crashed note, samples, after) := by
  simp only [bind, h]

theorem onSite_of {step : Step (Site σ τ) α} {outcome : Outcome α} {site : Site σ τ}
    (h : step b.toSite = (outcome, site)) :
    onSite step b = (outcome, [], { b with toSite := site }) :=
  congrArg (fun ran => (ran.1, ([] : List Sample), ({ b with toSite := ran.2 } : Bench σ τ))) h

theorem finish_eq (outcome : Outcome α) (b : Bench σ τ) : finish outcome b = (outcome, [], b) := rfl

theorem emit_eq (s : Sample) (b : Bench σ τ) : emit s b = (.done (), [s], b) := rfl

theorem draw_eq (f : Draws → α × Draws) (b : Bench σ τ) :
    draw f b = (.done (f b.draws).1, [], { b with draws := (f b.draws).2 }) := rfl

end

/-! ## Lockstep -/

/-- From related sites and the same place in the random source, the tasks end in the same way, with
the same samples, related sites and the same place. -/
def Lockstep (R : Site σ τ → Site σ' τ' → Prop) (V : α → α' → Prop) (task : Task σ τ α)
    (task' : Task σ' τ' α') : Prop :=
  ∀ b b', R b.toSite b'.toSite → b.draws = b'.draws →
    Outcome.Related V (task b).1 (task' b').1 ∧ (task b).2.1 = (task' b').2.1 ∧
      R (task b).2.2.toSite (task' b').2.2.toSite ∧ (task b).2.2.draws = (task' b').2.2.draws

variable {R : Site σ τ → Site σ' τ' → Prop} {V : α → α' → Prop} {W : β → β' → Prop}

theorem Lockstep.bind {task : Task σ τ α} {task' : Task σ' τ' α'} {next : α → Task σ τ β}
    {next' : α' → Task σ' τ' β'} (h : Lockstep R V task task')
    (hnext : ∀ value value', V value value' → Lockstep R W (next value) (next' value')) :
    Lockstep R W (task >>= next) (task' >>= next') := by
  intro b b' hsite hdraws
  obtain ⟨hended, hsamples, hafter, hplace⟩ := h b b' hsite hdraws
  rcases hrun : task b with ⟨outcome, samples, after⟩
  rcases hrun' : task' b' with ⟨outcome', samples', after'⟩
  rw [hrun, hrun'] at hended hsamples hafter hplace
  obtain rfl : samples = samples' := hsamples
  cases hended with
  | done hvalue =>
    rw [bind_of_done hrun, bind_of_done hrun']
    obtain ⟨hended, hmore, hfinal⟩ := hnext _ _ hvalue after after' hafter hplace
    exact ⟨hended, congrArg (samples ++ ·) hmore, hfinal⟩
  | failed fault =>
    rw [bind_of_failed hrun, bind_of_failed hrun']
    exact ⟨.failed fault, rfl, hafter, hplace⟩
  | crashed note =>
    rw [bind_of_crashed hrun, bind_of_crashed hrun']
    exact ⟨.crashed note, rfl, hafter, hplace⟩

theorem lockstep_onSite {step : Step (Site σ τ) α} {step' : Step (Site σ' τ') α'}
    (h : Step.Lockstep R V step step') : Lockstep R V (onSite step) (onSite step') := by
  intro b b' hsite hdraws
  obtain ⟨hended, hafter⟩ := h _ _ hsite
  exact ⟨hended, rfl, hafter, hdraws⟩

theorem lockstep_finish {outcome : Outcome α} {outcome' : Outcome α'}
    (h : Outcome.Related V outcome outcome') : Lockstep R V (finish outcome) (finish outcome') :=
  fun _ _ hsite hdraws => ⟨h, rfl, hsite, hdraws⟩

theorem lockstep_ofExcept (result : Except Fault α) :
    Lockstep R Eq (finish (.ofExcept result)) (finish (.ofExcept result)) :=
  lockstep_finish (Outcome.related_eq_iff.2 rfl)

theorem lockstep_emit (s : Sample) : Lockstep R Eq (emit s) (emit s) := fun _ _ hsite hdraws =>
  ⟨.done rfl, rfl, hsite, hdraws⟩

theorem lockstep_emitAll (samples : List Sample) :
    Lockstep R Eq (emitAll samples) (emitAll samples) := fun _ _ hsite hdraws =>
  ⟨.done rfl, rfl, hsite, hdraws⟩

theorem lockstep_draw (f : Draws → α × Draws) : Lockstep R Eq (draw f) (draw f) := by
  intro b b' hsite hdraws
  refine ⟨?_, rfl, hsite, ?_⟩
  · change Outcome.Related Eq (.done (f b.draws).1) (.done (f b'.draws).1)
    rw [hdraws]
    exact .done rfl
  · change (f b.draws).2 = (f b'.draws).2
    rw [hdraws]

end PgVitals.Task

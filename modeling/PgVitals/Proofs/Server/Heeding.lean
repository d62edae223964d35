import PgVitals.Proofs.Server.Trail
import PgVitals.Target

/-!
# Steps that heed what their calls tell

A step heeds its calls when it ends with the fault of a context that ended exactly if a call told it
that fault, and makes no attempt to connect and runs no statement behind that call.  The lemmas
follow the combinators, so that a program is seen to heed its calls from its text: where a fault is
caught or changed, the program has to let the faults of contexts through.
-/

namespace PgVitals

variable {σ τ ρ α β : Type}

/-- Calls of a step, which ends as they told it. -/
structure Heeding (c : Connector σ τ) (ctx : ContextId) (before : Scene (Audited σ))
    (events : List Event) (outcome : Outcome α) (after : Scene (Audited σ)) : Prop where
  trail : Trail c ctx before events after
  told : Told events outcome.cancellation?

/-- The fault of a context that ended, if the step passes it on, is that of the cause with which its
context has ended. -/
theorem Heeding.cause {c : Connector σ τ} {ctx : ContextId} {log : σ → ρ}
    {before after : Scene (Audited σ)} {events : List Event} {outcome : Outcome α}
    (hc : c.Attentive ctx log) (h : Heeding c ctx before events outcome after) {fault : Fault}
    (hfault : outcome.cancellation? = some fault) :
    ∃ k, after.contexts.ending? ctx = some k ∧ fault = k.fault := by
  have htold := h.told
  rw [hfault] at htold
  exact h.trail.cause_of_told hc htold

namespace Told

/-- A single call tells what the outcome taken from it passes on. -/
theorem call {e : Event} {outcome : Outcome α}
    (hcancelled : e.isCancelled = outcome.cancellation?.isSome)
    (htells : ∀ fault, outcome = .failed fault → e.Tells fault) :
    Told [e] outcome.cancellation? := by
  cases hcancel : outcome.cancellation? with
  | some fault =>
    obtain ⟨hfailed, hfault⟩ := Outcome.cancellation?_eq_some_iff.1 hcancel
    exact .single (htells fault hfailed) hfault
  | none =>
    rw [hcancel] at hcancelled
    refine .nothing ?_
    rw [cancels, List.any_cons, hcancelled]
    rfl

theorem query (origin : Origin) (sql : String) (ending : Outcome (List Row)) :
    Told [.query origin sql ending] ending.cancellation? := by
  refine call ?_ fun fault hfailed => hfailed
  cases ending with
  | done rows => rfl
  | failed fault => exact Outcome.isSome_cancellation?_failed.symm
  | crashed note => rfl

theorem connect (descriptor : String) (ending : Outcome α) :
    Told [.connect descriptor (ending.map fun _ => ())] ending.cancellation? := by
  refine call ?_ fun fault hfailed => ?_
  · cases ending with
    | done session => rfl
    | failed fault => exact Outcome.isSome_cancellation?_failed.symm
    | crashed note => rfl
  · rw [hfailed]
    rfl

end Told

namespace Outcome

/-- The fault of a timeout that could not be set lets the faults of contexts through. -/
theorem cancellation?_mapFault_timeoutFault (outcome : Outcome α) :
    (outcome.mapFault timeoutFault).cancellation? = outcome.cancellation? := by
  cases outcome with
  | done value => rfl
  | crashed note => rfl
  | failed fault =>
    cases hfault : fault.isCancellation with
    | true => simp [mapFault, timeoutFault, hfault]
    | false =>
      have htimeout : (Fault.timeoutConfigurationFailed fault.message).isCancellation = false := rfl
      simp [mapFault, timeoutFault, cancellation?, hfault, htimeout]

end Outcome

namespace Step

variable {S : Type} (c : Connector σ τ) (ctx : ContextId) (view : S → Scene (Audited σ))
  (I : S → Prop)

/-- The step keeps the invariant, and ends as its calls told it. -/
def Heeds (step : Step S α) : Prop :=
  ∀ s, I s → I (step s).2 ∧
    ∃ events, Heeding c ctx (view s) events (step s).1 (view (step s).2)

/-- From a state with the invariant the step only closes sessions, and ends in the way given. -/
def Closes (P : Outcome α → Prop) (step : Step S α) : Prop :=
  ∀ s, I s → P (step s).1 ∧
    ∃ events, Trail c ctx (view s) events (view (step s).2) ∧ ∀ e ∈ events, e.isTraffic = false

variable {c ctx view I}

/-! ## Steps without calls -/

theorem heeds_finish {outcome : Outcome α} (h : outcome.cancellation? = none) :
    Heeds c ctx view I (finish outcome) := by
  intro s hs
  refine ⟨hs, [], .nil _, ?_⟩
  change Told [] outcome.cancellation?
  rw [h]
  exact .nothing rfl

theorem heeds_pure (value : α) : Heeds c ctx view I (pure value) := heeds_finish rfl

theorem heeds_fail {fault : Fault} (h : fault.isCancellation = false) :
    Heeds c ctx view I (fail fault : Step S α) := by
  refine heeds_finish ?_
  rw [Outcome.cancellation?, h]
  rfl

theorem heeds_ofExcept {result : Except Fault α} (h : Untold result) :
    Heeds c ctx view I (ofExcept result) := by
  cases result with
  | ok value => exact heeds_pure value
  | error fault => exact heeds_fail (h fault rfl)

theorem closes_finish {P : Outcome α → Prop} {outcome : Outcome α} (h : P outcome) :
    Closes c ctx view I P (finish outcome) := by
  intro s _
  exact ⟨h, [], .nil _, fun e he => by cases he⟩

/-! ## Sequences -/

theorem Heeds.bind {step : Step S α} {next : α → Step S β} (h : Heeds c ctx view I step)
    (hnext : ∀ value, Heeds c ctx view I (next value)) : Heeds c ctx view I (step >>= next) := by
  intro s hs
  obtain ⟨hafter, events, htrail, htold⟩ := h s hs
  rcases hrun : step s with ⟨value | fault | note, after⟩ <;> rw [hrun] at hafter htrail htold
  · obtain ⟨hlast, more, htrail', htold'⟩ := hnext value after hafter
    rw [bind_of_done hrun]
    exact ⟨hlast, events ++ more, htrail.append htrail', htold.append htold'⟩
  · rw [bind_of_failed hrun]
    exact ⟨hafter, events, htrail, htold⟩
  · rw [bind_of_crashed hrun]
    exact ⟨hafter, events, htrail, htold⟩

/-- A caller that catches the outcome of a step has to pass the fault of a context on. -/
theorem Heeds.attempt_bind {step : Step S α} {next : Outcome α → Step S β}
    (h : Heeds c ctx view I step)
    (hnext : ∀ outcome, outcome.cancellation? = none → Heeds c ctx view I (next outcome))
    (hpass : ∀ fault, fault.isCancellation = true → Keeps I (next (.failed fault)) ∧
      Closes c ctx view I (· = .failed fault) (next (.failed fault))) :
    Heeds c ctx view I (step.attempt >>= next) := by
  intro s hs
  obtain ⟨hafter, events, htrail, htold⟩ := h s hs
  have hrun : step.attempt s = (.done (step s).1, (step s).2) := rfl
  rw [bind_of_done hrun]
  cases hcancel : (step s).1.cancellation? with
  | none =>
    obtain ⟨hlast, more, htrail', htold'⟩ := hnext (step s).1 hcancel (step s).2 hafter
    rw [hcancel] at htold
    exact ⟨hlast, events ++ more, htrail.append htrail', htold.append htold'⟩
  | some fault =>
    obtain ⟨houtcome, hfault⟩ := Outcome.cancellation?_eq_some_iff.1 hcancel
    obtain ⟨hkeeps, hcloses⟩ := hpass fault hfault
    obtain ⟨hended, more, htrail', hmore⟩ := hcloses (step s).2 hafter
    have hpassed : (Outcome.failed fault : Outcome β).cancellation? = some fault :=
      Outcome.cancellation?_eq_some_iff.2 ⟨rfl, hfault⟩
    rw [houtcome]
    refine ⟨hkeeps _ hafter, events ++ more, htrail.append htrail', ?_⟩
    rw [hended, hpassed, ← hcancel]
    exact htold.append_closings hmore

theorem Heeds.mapFault {step : Step S α} (h : Heeds c ctx view I step) :
    Heeds c ctx view I (step.mapFault timeoutFault) := by
  intro s hs
  obtain ⟨hafter, events, htrail, htold⟩ := h s hs
  refine ⟨hafter, events, htrail, ?_⟩
  change Told events ((step s).1.mapFault timeoutFault).cancellation?
  rw [Outcome.cancellation?_mapFault_timeoutFault]
  exact htold

/-! ## Clean-up -/

variable {cleanup : Step S Unit}

theorem Heeds.ensuring {step : Step S α} (h : Heeds c ctx view I step)
    (hkeeps : Keeps I cleanup) (hcleanup : Closes c ctx view I (·.isCrashed = false) cleanup) :
    Heeds c ctx view I (step.ensuring cleanup) := by
  intro s hs
  obtain ⟨hafter, events, htrail, htold⟩ := h s hs
  obtain ⟨hcalm, more, htrail', hmore⟩ := hcleanup _ hafter
  rw [ensuring_eq, Outcome.closedWith_of_not_crashed _ hcalm]
  exact ⟨hkeeps _ hafter, events ++ more, htrail.append htrail', htold.append_closings hmore⟩

theorem closes_fail_ensuring (fault : Fault)
    (hcleanup : Closes c ctx view I (·.isCrashed = false) cleanup) :
    Closes c ctx view I (· = .failed fault) ((fail fault : Step S α).ensuring cleanup) := by
  intro s hs
  obtain ⟨hcalm, more, htrail, hmore⟩ := hcleanup s hs
  rw [ensuring_eq]
  exact ⟨Outcome.closedWith_of_not_crashed _ hcalm, more, htrail, hmore⟩

/-- What is undone need not keep the invariant. -/
theorem Heeds.undoing {step : Step S α} (h : Heeds c ctx view I step)
    (hundo : Closes c ctx view I (·.isCrashed = false) cleanup) {s : S} (hs : I s) :
    ∃ events, Heeding c ctx (view s) events (step.undoing cleanup s).1
      (view (step.undoing cleanup s).2) := by
  obtain ⟨hafter, events, htrail, htold⟩ := h s hs
  rw [undoing_eq]
  rcases hrun : step s with ⟨value | fault | note, after⟩ <;> rw [hrun] at hafter htrail htold
  · exact ⟨events, htrail, htold⟩
  · obtain ⟨hcalm, more, htrail', hmore⟩ := hundo after hafter
    simp only [Outcome.closedWith_of_not_crashed _ hcalm]
    exact ⟨events ++ more, htrail.append htrail', htold.append_closings hmore⟩
  · exact ⟨events, htrail, htold⟩

end Step

/-! ## Calls -/

section

variable {c : Connector σ τ} {ctx : ContextId} {log : σ → ρ}

theorem Connector.connect_heeds (c : Connector σ τ) (ctx : ContextId) (descriptor : String) :
    Step.Heeds c ctx id (fun _ => True) (c.audited.connect ctx descriptor) := fun s _ =>
  ⟨trivial, _, .single (.connect descriptor s), Told.connect descriptor _⟩

theorem Connector.query_heeds (c : Connector σ τ) (ctx : ContextId) (traced : Traced τ)
    (sql : String) :
    Step.Heeds c ctx id (fun _ => True) (c.audited.query traced ctx sql) := fun s _ =>
  ⟨trivial, _, .single (.query traced sql s), Told.query traced.origin sql _⟩

theorem Connector.Attentive.close_closes (hc : c.Attentive ctx log) (traced : Traced τ) :
    Step.Closes c ctx id (fun _ => True) (·.isCrashed = false) (c.audited.close traced) := by
  intro s _
  refine ⟨hc.close_calm traced.session s.plain, _, .single (.close traced s), ?_⟩
  intro e he
  rw [List.mem_singleton.1 he]
  rfl

/-! ## Siblings -/

namespace Sibling

theorem query_heeds (sibling : Sibling (Traced τ)) (ctx : ContextId) (sql : String) :
    Step.Heeds c ctx id (fun _ => True) (sibling.query c.audited ctx sql) := by
  obtain ⟨database, _ | traced⟩ := sibling
  · exact Step.heeds_fail rfl
  · exact c.query_heeds ctx traced sql

theorem close_closes (hc : c.Attentive ctx log) (sibling : Sibling (Traced τ)) :
    Step.Closes c ctx id (fun _ => True) (·.isCrashed = false) (sibling.close c.audited) := by
  obtain ⟨database, _ | traced⟩ := sibling
  · exact Step.closes_finish rfl
  · exact hc.close_closes traced

theorem connect_heeds (hc : c.Attentive ctx log) {t : Target (Audited σ) (Traced τ)}
    (ht : t.connector = c.audited) (database : String) :
    Step.Heeds c ctx id (fun _ => True) (connect t ctx database) := by
  rw [connect, ht]
  refine (c.connect_heeds ctx _).bind fun traced => ?_
  have hclose := hc.close_closes traced
  split
  · refine (c.query_heeds ctx traced _).mapFault.attempt_bind ?_ ?_
    · intro outcome houtcome
      cases outcome with
      | done rows => exact Step.heeds_pure _
      | failed fault =>
        have hfault : (Outcome.failed fault : Outcome (Sibling (Traced τ))).cancellation? = none :=
          houtcome
        -- No context ended here, and the closing behind the fault is no traffic.
        exact (Step.heeds_finish hfault).ensuring (fun _ _ => trivial) hclose
      | crashed note => exact (Step.heeds_finish rfl).ensuring (fun _ _ => trivial) hclose
    · intro fault _
      exact ⟨fun _ _ => trivial, Step.closes_fail_ensuring fault hclose⟩
  · exact Step.heeds_pure _

end Sibling

end

end PgVitals

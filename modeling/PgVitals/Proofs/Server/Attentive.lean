import PgVitals.Proofs.Cancellation.Endings
import PgVitals.Proofs.Descriptor.Form
import PgVitals.Proofs.Steps
import PgVitals.Server.Script

/-!
# Connectors that heed the end of a context

An attentive connector makes no attempt to connect and runs no statement under a context that has
ended: the call fails with the fault of the context before the server has logged it.  A call that
fails with such a fault while the context was open tells the truth: the context has ended since.
Closing a session is not subject to the context.

The server of a script is attentive, whatever else happens to the contexts while a statement runs.
-/

namespace PgVitals

variable {σ τ ρ α β : Type}

/-! ## Results that say nothing of a context -/

/-- When the result is a fault, it is not that of a context that ended. -/
def Untold (result : Except Fault α) : Prop :=
  ∀ fault, result = .error fault → fault.isCancellation = false

theorem untold_ok (value : α) : Untold (.ok value) := fun _ h => by cases h

theorem untold_error {fault : Fault} (h : fault.isCancellation = false) :
    Untold (.error fault : Except Fault α) := by
  intro other hother
  rw [← Except.error.inj hother]
  exact h

theorem Untold.map {result : Except Fault α} (h : Untold result) (f : α → β) :
    Untold (result.map f) := by
  cases result with
  | ok value => exact untold_ok _
  | error fault => exact untold_error (h fault rfl)

theorem Untold.bind {result : Except Fault α} {next : α → Except Fault β} (h : Untold result)
    (hnext : ∀ value, Untold (next value)) : Untold (result >>= next) := by
  cases result with
  | ok value => exact hnext value
  | error fault => exact untold_error (h fault rfl)

/-! ## What a call says about its context -/

/-- The call was refused because its context has ended: it fails with the fault of the context, the
context stays ended, and the server logged nothing. -/
structure Scene.Refused (ctx : ContextId) (log : σ → ρ) (k : Cause) (s : Scene σ)
    (ran : Outcome α × Scene σ) : Prop where
  outcome_eq : ran.1 = .failed k.fault
  ending?_eq : ran.2.contexts.ending? ctx = some k
  log_eq : log ran.2.server = log s.server

namespace Step

/-- When the step fails with the fault of a context that ended, its context has ended so. -/
def Truthful (ctx : ContextId) (step : Step (Scene σ) α) : Prop :=
  ∀ s fault, (step s).1 = .failed fault → fault.isCancellation = true →
    ∃ k, (step s).2.contexts.ending? ctx = some k ∧ fault = k.fault

variable {ctx : ContextId}

theorem truthful_pure (value : α) : Truthful ctx (pure value : Step (Scene σ) α) := by
  intro s fault hfault _
  cases hfault

theorem truthful_state : Truthful ctx (state : Step (Scene σ) (Scene σ)) := by
  intro s fault hfault _
  cases hfault

theorem truthful_update (f : Scene σ → Scene σ) : Truthful ctx (update f) := by
  intro s fault hfault _
  cases hfault

/-- A fault that says nothing of a context is no lie. -/
theorem truthful_fail {fault : Fault} (h : fault.isCancellation = false) :
    Truthful ctx (fail fault : Step (Scene σ) α) := by
  intro s other hother hcancels
  obtain rfl : fault = other := Outcome.failed.inj hother
  rw [h] at hcancels
  cases hcancels

theorem truthful_ofExcept {result : Except Fault α} (h : Untold result) :
    Truthful ctx (ofExcept result : Step (Scene σ) α) := by
  cases result with
  | ok value => exact truthful_pure value
  | error fault => exact truthful_fail (h fault rfl)

theorem Truthful.bind {step : Step (Scene σ) α} {next : α → Step (Scene σ) β}
    (h : Truthful ctx step) (hnext : ∀ value, Truthful ctx (next value)) :
    Truthful ctx (step >>= next) := by
  intro s fault hfault hcancels
  have hstep := h s
  rcases hrun : step s with ⟨value | other | note, after⟩ <;> rw [hrun] at hstep
  · rw [bind_of_done hrun] at hfault ⊢
    exact hnext value after fault hfault hcancels
  · rw [bind_of_failed hrun] at hfault ⊢
    obtain rfl : other = fault := Outcome.failed.inj hfault
    exact hstep other rfl hcancels
  · rw [bind_of_crashed hrun] at hfault
    cases hfault

theorem truthful_check : Truthful ctx (Scene.check ctx : Step (Scene σ) Unit) := by
  intro s fault hfault _
  obtain ⟨k, hending, rfl⟩ := Contexts.check_failed hfault
  refine ⟨k, ?_, rfl⟩
  change (Contexts.check ctx s.contexts).2.ending? ctx = some k
  rw [Contexts.check_of_ended hending]
  exact Contexts.ending?_notice hending

theorem truthful_await :
    Truthful ctx (Scene.onContexts (Contexts.await ctx) : Step (Scene σ) α) := by
  intro s fault hfault hcancels
  exact Contexts.await_told hfault hcancels

end Step

theorem Scene.check_of_ended {ctx : ContextId} {s : Scene σ} {k : Cause}
    (h : s.contexts.ending? ctx = some k) :
    Scene.check ctx s = (.failed k.fault, { s with contexts := s.contexts.notice ctx }) := by
  rw [Scene.check, Scene.onContexts, Step.on, Contexts.check_of_ended h]

/-- Asking a context that is open changes nothing. -/
theorem Scene.check_of_open {ctx : ContextId} {s : Scene σ}
    (h : s.contexts.ending? ctx = none) : Scene.check ctx s = (.done (), s) := by
  rw [Scene.check, Scene.onContexts, Step.on, Contexts.check_of_open h, Contexts.notice_of_open h]

/-- A call that checks its context first is refused once the context has ended. -/
theorem Scene.refused_of_check {ctx : ContextId} {log : σ → ρ} {s : Scene σ} {k : Cause}
    (h : s.contexts.ending? ctx = some k) (next : Unit → Step (Scene σ) α) :
    s.Refused ctx log k ((Scene.check ctx >>= next) s) := by
  rw [Step.bind_of_failed (Scene.check_of_ended h)]
  exact ⟨rfl, Contexts.ending?_notice h, rfl⟩

/-- The connector heeds the end of a context, for what the server logs. -/
structure Connector.Attentive (c : Connector σ τ) (ctx : ContextId) (log : σ → ρ) : Prop where
  connect_refused : ∀ {s : Scene σ} {k}, s.contexts.ending? ctx = some k → ∀ descriptor,
    s.Refused ctx log k (c.connect ctx descriptor s)
  query_refused : ∀ {s : Scene σ} {k}, s.contexts.ending? ctx = some k → ∀ session sql,
    s.Refused ctx log k (c.query session ctx sql s)
  connect_truthful : ∀ descriptor, (c.connect ctx descriptor).Truthful ctx
  query_truthful : ∀ session sql, (c.query session ctx sql).Truthful ctx
  close_calm : ∀ session s, (c.close session s).1.isCrashed = false
  close_contexts : ∀ session s, (c.close session s).2.contexts = s.contexts
  close_log : ∀ session s, log (c.close session s).2.server = log s.server

/-! ## The server of a script -/

namespace Script

variable {ctx : ContextId}

/-- The descriptors and the statements that reached the server. -/
def log (s : Script) : List String × List (String × String) := (s.descriptors, s.calls)

/-- The connector to the server of a script while others are at work: once a statement is logged and
before it is answered, the contexts change in any way. -/
def connectorAmid (meanwhile : String → ContextId → String → Scene Script → Contexts) :
    Connector Script String where
  connect := connect
  query := fun database ctx sql =>
    queryAmid (Step.update fun s => { s with contexts := meanwhile database ctx sql s })
      database ctx sql
  close := close

theorem databaseOf_untold (descriptor : String) : Untold (databaseOf descriptor) := by
  refine Untold.map (fun fault h => ?_) _
  obtain ⟨detail, rfl⟩ := Descriptor.read_fault h
  rfl

theorem connect_truthful (descriptor : String) : (connect ctx descriptor).Truthful ctx := by
  refine Step.truthful_check.bind fun _ => ?_
  refine (Step.truthful_ofExcept (databaseOf_untold descriptor)).bind fun database => ?_
  refine (Step.truthful_update _).bind fun _ => ?_
  refine Step.truthful_state.bind fun scene => ?_
  split
  · exact Step.truthful_fail rfl
  · exact (Step.truthful_update _).bind fun _ => Step.truthful_pure database

theorem queryAmid_truthful (change : Scene Script → Scene Script) (database sql : String) :
    (queryAmid (Step.update change) database ctx sql).Truthful ctx := by
  refine Step.truthful_check.bind fun _ => ?_
  refine (Step.truthful_update _).bind fun _ => ?_
  refine (Step.truthful_update _).bind fun _ => ?_
  refine Step.truthful_state.bind fun scene => ?_
  split
  · exact Step.truthful_pure _
  · exact Step.truthful_fail rfl
  · exact Step.truthful_await
  · exact Step.truthful_fail rfl

/-- Under an open context the rows of the script are the answer, and only the statement is noted. -/
theorem query_of_rows {database sql : String} {s : Scene Script} {rows : List Row}
    (hopen : s.contexts.ending? ctx = none)
    (hanswer : s.server.answer? database sql = some (.rows rows)) :
    query database ctx sql s = (.done rows,
      { s with server := { s.server with calls := s.server.calls ++ [(database, sql)] } }) := by
  let noted : Scene Script :=
    { s with server := { s.server with calls := s.server.calls ++ [(database, sql)] } }
  have hnoted : noted.server.answer? database sql = some (.rows rows) := hanswer
  have hnote : Scene.onServer (Step.update fun script : Script =>
      { script with calls := script.calls ++ [(database, sql)] }) s = (.done (), noted) := rfl
  have hidle : (pure () : Step (Scene Script) Unit) noted = (.done (), noted) := rfl
  have hstate : (Step.state : Step (Scene Script) _) noted = (.done noted, noted) := rfl
  rw [query, queryAmid, Step.bind_of_done (Scene.check_of_open hopen), Step.bind_of_done hnote,
    Step.bind_of_done hidle, Step.bind_of_done hstate, hnoted]
  rfl

/-- **The server of a script heeds the end of a context.** -/
theorem attentive (meanwhile : String → ContextId → String → Scene Script → Contexts)
    (ctx : ContextId) : (connectorAmid meanwhile).Attentive ctx log where
  connect_refused := fun h _ => Scene.refused_of_check h _
  query_refused := fun h _ _ => Scene.refused_of_check h _
  connect_truthful := connect_truthful
  query_truthful := fun database sql => queryAmid_truthful _ database sql
  close_calm := fun _ _ => rfl
  close_contexts := fun _ _ => rfl
  close_log := fun _ _ => rfl

end Script

end PgVitals

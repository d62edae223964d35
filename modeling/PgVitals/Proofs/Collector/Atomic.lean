import PgVitals.Proofs.Collector.Report
import PgVitals.Proofs.Collector.Series

/-!
# A collector that fails leaves no part of its data

A task that ends without a value keeps what it emitted before.  The collectors are written so that
nothing is lost on this: they ask and read first, in parts that emit nothing, and what emits comes
to its end.  The collector of extensions emits its two numbers before its tour of the databases, so
a tour that is cut short leaves these two and nothing of what it found.
-/

namespace PgVitals

variable {σ τ α β : Type}

/-! ## Tasks that emit all or nothing -/

namespace Task

/-- The task emits nothing, however it ends. -/
def EmitsNothing (task : Task σ τ α) : Prop := ∀ b, (task b).2.1 = []

/-- The task comes to a value. -/
def Completes (task : Task σ τ α) : Prop := ∀ b, (task b).1.isDone = true

/-- The task has emitted nothing unless it comes to a value. -/
def Atomic (task : Task σ τ α) : Prop := ∀ b, (task b).1.isDone = false → (task b).2.1 = []

/-- What a sink holds after the task, which adds its samples behind those held before. -/
def sinkAfter (task : Task σ τ α) (sink : List Sample) (b : Bench σ τ) : List Sample :=
  sink ++ (task b).2.1

theorem query_emitsNothing (ctx : ContextId) (sql : String) :
    (query ctx sql : Task σ τ _).EmitsNothing := fun _ => rfl

theorem finish_emitsNothing (outcome : Outcome α) :
    (finish outcome : Task σ τ α).EmitsNothing := fun _ => rfl

theorem emitAll_completes (samples : List Sample) : (emitAll samples : Task σ τ Unit).Completes :=
  fun _ => rfl

theorem emit_completes (s : Sample) : (emit s : Task σ τ Unit).Completes := fun _ => rfl

theorem Completes.bind {task : Task σ τ α} {next : α → Task σ τ β} (h : task.Completes)
    (hnext : ∀ value, (next value).Completes) : (task >>= next).Completes := by
  intro b
  have hdone := h b
  rcases hrun : task b with ⟨value | fault | note, samples, after⟩ <;> rw [hrun] at hdone
  · rw [bind_of_done hrun]
    exact hnext value after
  · cases hdone
  · cases hdone

theorem Completes.atomic {task : Task σ τ α} (h : task.Completes) : task.Atomic := by
  intro b hnot
  rw [h b] at hnot
  cases hnot

theorem EmitsNothing.atomic {task : Task σ τ α} (h : task.EmitsNothing) : task.Atomic :=
  fun b _ => h b

/-- In front of a task that emits all or nothing others may stand that emit nothing. -/
theorem Atomic.after {task : Task σ τ α} {next : α → Task σ τ β}
    (hnext : ∀ value, (next value).Atomic) (h : task.EmitsNothing) : (task >>= next).Atomic := by
  intro b hnot
  have hnone := h b
  rcases hrun : task b with ⟨value | fault | note, samples, after⟩ <;> rw [hrun] at hnone <;>
    obtain rfl : samples = [] := hnone
  · rw [bind_of_done hrun] at hnot ⊢
    exact hnext value after hnot
  · rw [bind_of_failed hrun]
  · rw [bind_of_crashed hrun]

end Task

/-! ## The collectors -/

theorem Superusers.update_atomic (settings : Settings) (ctx : ContextId) :
    (update settings ctx : Task σ τ Unit).Atomic := by
  refine .after (fun t => ?_) fun _ => rfl
  refine .after (fun rows => ?_) (Task.query_emitsNothing ctx _)
  refine .after (fun roles => ?_) (Task.finish_emitsNothing _)
  exact ((Task.emitAll_completes _).bind fun _ => Task.emit_completes _).atomic

theorem Transactions.update_atomic (ctx : ContextId) :
    (update ctx : Task σ τ Unit).Atomic := by
  refine .after (fun rows => ?_) (Task.query_emitsNothing ctx _)
  refine .after (fun samples => ?_) (Task.finish_emitsNothing _)
  exact (Task.emitAll_completes samples).atomic

theorem StandbySlots.update_atomic (ctx : ContextId) :
    (update ctx : Task σ τ Unit).Atomic := by
  refine .after (fun t => ?_) fun _ => rfl
  split
  · exact Task.EmitsNothing.atomic fun _ => rfl
  · refine .after (fun rows => ?_) (Task.query_emitsNothing ctx _)
    refine .after (fun n => ?_) (Task.finish_emitsNothing _)
    exact (Task.emit_completes _).atomic

/-- Every function is asked before any time is emitted. -/
theorem BuildTimes.update_atomic (ctx : ContextId) : (update ctx : Task σ τ Unit).Atomic := by
  refine .after (fun samples => ?_) (gather_silent metrics)
  split
  · exact (Task.finish_emitsNothing (.failed .noData)).atomic
  · exact (Task.emitAll_completes samples).atomic

/-- **A collector that fails leaves no part of its data.** Whatever the server answers and however
an update is cut short, the sink holds what it held before; only the collector of extensions may
have added its two numbers, if the databases were listed, and no extension with them. -/
theorem Collector.sink_of_not_done (settings : Settings) (ctx : ContextId) (b : Bench σ τ)
    (sink : List Sample) :
    (∀ update ∈ [Superusers.update settings ctx, Transactions.update ctx, StandbySlots.update ctx,
        BuildTimes.update ctx],
      (update b).1.isDone = false → update.sinkAfter sink b = sink) ∧
    ((Extensions.update settings ctx b).1.isDone = false →
      ∃ added, (Extensions.update settings ctx).sinkAfter sink b = sink ++ added ∧
        (∀ s ∈ added, s.name ≠ Extensions.info.fullName) ∧
        (added = [] ∨ ∃ rows names after,
          Target.query ctx Extensions.databaseStatement b.toSite = (.done rows, after) ∧
          Extensions.readDatabases settings rows = .ok names ∧ names ≠ [] ∧
          added = Extensions.numbers settings b.draws names)) := by
  constructor
  · have hsink : ∀ update : Task σ τ Unit, update.Atomic → (update b).1.isDone = false →
        update.sinkAfter sink b = sink := by
      intro update hatomic hnot
      rw [Task.sinkAfter, hatomic b hnot, List.append_nil]
    simp only [List.forall_mem_cons]
    exact ⟨hsink _ (Superusers.update_atomic settings ctx),
      hsink _ (Transactions.update_atomic ctx), hsink _ (StandbySlots.update_atomic ctx),
      hsink _ (BuildTimes.update_atomic ctx), List.forall_mem_nil _⟩
  · intro hnot
    exact ⟨_, rfl, Extensions.ne_info_of_not_done hnot, Extensions.update_partial hnot⟩

/-- The last role listed has no second column, and the tour of the databases is cancelled on its
way. -/
theorem Collector.sink_of_not_done_short_row :
    let answer : String → Outcome (List Row) := fun sql =>
      if sql = Superusers.directStatement then
        .done [⟨[some "root", some "direct"]⟩, ⟨[some "eve"]⟩]
      else if sql = Extensions.databaseStatement then .done [⟨[some "app"]⟩]
      else .failed .cancelled
    let connector : Connector Unit String :=
      ⟨fun _ descriptor => pure descriptor, fun _ _ sql => Step.finish (answer sql),
        fun _ => pure ()⟩
    let b : Bench Unit String :=
      ⟨⟨⟨connector, .keyValue ⟨[⟨"host", "h"⟩]⟩, 0, some (.owned "postgres"), .unknown⟩,
        .around () 0⟩, .ofWords #[]⟩
    let held := StandbySlots.invalid.gauge 0 []
    (Superusers.update {} 0 b).1 =
        .failed (.scanFailed "column 1 out of range (1 columns)") ∧
      (Superusers.update {} 0).sinkAfter [held] b = [held] ∧
      (Extensions.update {} 0 b).1 = .failed .cancelled ∧
      ∃ added, (Extensions.update {} 0).sinkAfter [held] b = held :: added ∧ added.length = 2 ∧
        ∀ s ∈ added, s.name ≠ Extensions.info.fullName := by
  intro answer connector b held
  have hroles : (Superusers.update {} 0 b).1 =
      .failed (.scanFailed "column 1 out of range (1 columns)") := by decide +kernel
  have htour : (Extensions.update {} 0 b).1 = .failed .cancelled := by decide +kernel
  have hsome : (Extensions.update {} 0 b).2.1.isEmpty = false := by decide +kernel
  obtain ⟨hatomic, hextensions⟩ := sink_of_not_done {} 0 b [held]
  have hkept : (Superusers.update {} 0).sinkAfter [held] b = [held] :=
    hatomic _ List.mem_cons_self (by rw [hroles]; rfl)
  obtain ⟨added, hsink, hinfo, hadded⟩ := hextensions (by rw [htour]; rfl)
  obtain rfl : (Extensions.update {} 0 b).2.1 = added := (List.cons.inj hsink).2
  refine ⟨hroles, hkept, htour, _, hsink, ?_, hinfo⟩
  obtain hnone | ⟨rows, names, after, -, -, -, hnumbers⟩ := hadded
  · rw [hnone] at hsome
    cases hsome
  · rw [hnumbers]
    rfl

end PgVitals

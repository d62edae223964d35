import PgVitals.Collector.Builtin
import PgVitals.Proofs.Collector.Tasks
import PgVitals.Proofs.Collector.Tour

/-!
# What collectors are made of

The collectors that come with the program are written without regard to the server they run on.
They run statements, none of which sets a timeout, scan databases, look at the version of the
server, draw, emit and end, and they look at nothing else of the target.  `Task.Matches` relates two
tasks that are made so with the same text over two servers.  What statements and scans have in
common on two servers, or keep on one, is therefore common to the collectors, or kept by them.
-/

namespace PgVitals

variable {σ τ σ' τ' : Type}

/-! ## Tasks of the same text -/

/-- The same text over two servers. -/
inductive Task.Matches (ctx : ContextId) :
    {α : Type} → Task σ τ α → Task σ' τ' α → Prop where
  | finish {α : Type} (outcome : Outcome α) : Matches ctx (finish outcome) (finish outcome)
  | emitAll (samples : List Sample) : Matches ctx (emitAll samples) (emitAll samples)
  | draw {α : Type} (f : Draws → α × Draws) : Matches ctx (draw f) (draw f)
  | query {sql : String} (h : ∀ timeout, sql ≠ timeoutStatement timeout) :
    Matches ctx (query ctx sql) (query ctx sql)
  | scanAll (databases : List String) (known : Extensions.Known) :
    Matches ctx (onSite (Extensions.scanAll ctx databases known))
      (onSite (Extensions.scanAll ctx databases known))
  | target {α : Type} {next : Target σ τ → Task σ τ α} {next' : Target σ' τ' → Task σ' τ' α}
    (h : ∀ t t', t.version = t'.version → Matches ctx (next t) (next' t')) :
    Matches ctx (Task.target >>= next) (Task.target >>= next')
  | bind {α β : Type} {task : Task σ τ α} {task' : Task σ' τ' α} {next : α → Task σ τ β}
    {next' : α → Task σ' τ' β} (h : Matches ctx task task')
    (hnext : ∀ value, Matches ctx (next value) (next' value)) :
    Matches ctx (task >>= next) (task' >>= next')

namespace Task.Matches

variable {ctx : ContextId} {α : Type} {task : Task σ τ α} {task' : Task σ' τ' α}

/-- What statements and scans do in lockstep, tasks of the same text do in lockstep. -/
theorem lockstep {R : Site σ τ → Site σ' τ' → Prop}
    (hversion : ∀ site site', R site site' → site.target.version = site'.target.version)
    (hquery : ∀ sql, Step.Lockstep R Eq (Target.query ctx sql) (Target.query ctx sql))
    (hscan : ∀ databases known, Step.Lockstep R Eq (Extensions.scanAll ctx databases known)
      (Extensions.scanAll ctx databases known))
    (h : Matches ctx task task') : Task.Lockstep R Eq task task' := by
  induction h with
  | finish outcome => exact lockstep_finish (Outcome.related_eq_iff.2 rfl)
  | emitAll samples => exact lockstep_emitAll samples
  | draw f => exact lockstep_draw f
  | query => exact lockstep_onSite (hquery _)
  | scanAll databases known => exact lockstep_onSite (hscan databases known)
  | target _ ih =>
    have htarget : Task.Lockstep R (fun t t' => t.version = t'.version)
        (Task.target : Task σ τ _) (Task.target : Task σ' τ' _) :=
      lockstep_onSite fun site site' hsite => ⟨.done (hversion site site' hsite), hsite⟩
    exact htarget.bind ih
  | bind _ _ ih ihnext =>
    refine ih.bind ?_
    rintro value _ rfl
    exact ihnext value

/-- What statements and scans keep is kept by a task. -/
theorem keeps {I : Site σ τ → Prop} {task' : Task σ τ α}
    (hquery : ∀ sql, (∀ timeout, sql ≠ timeoutStatement timeout) →
      Step.Keeps I (Target.query ctx sql))
    (hscan : ∀ databases known, Step.Keeps I (Extensions.scanAll ctx databases known))
    (h : Matches ctx task task') : ∀ b, I b.toSite → I (task b).2.2.toSite := by
  induction h with
  | finish outcome => exact fun b hb => hb
  | emitAll samples => exact fun b hb => hb
  | draw f => exact fun b hb => hb
  | query hsql => exact fun b hb => hquery _ hsql b.toSite hb
  | scanAll databases known => exact fun b hb => hscan databases known b.toSite hb
  | target _ ih => exact fun b hb => ih b.target b.target rfl b hb
  | @bind _ _ task _ next _ _ _ ih ihnext =>
    intro b hb
    have hafter := ih b hb
    -- The rest runs only if this part came to its end; what holds behind it holds either way.
    rcases hrun : task b with ⟨value | fault | note, samples, after⟩ <;> rw [hrun] at hafter
    · rw [bind_of_done hrun]
      exact ihnext value after hafter
    · rw [bind_of_failed hrun]
      exact hafter
    · rw [bind_of_crashed hrun]
      exact hafter

end Task.Matches

/-! ## The updates -/

theorem Extensions.update_matches (settings : Settings) (ctx : ContextId) :
    Task.Matches ctx (update settings ctx : Task σ τ Unit)
      (update settings ctx : Task σ' τ' Unit) := by
  refine .bind (.query (ne_timeoutStatement (by decide))) fun rows => ?_
  refine .bind (.finish _) fun eligible => ?_
  refine .bind (.emitAll [_]) fun _ => ?_
  split
  · exact .emitAll [_]
  · refine .bind (.draw _) fun targets => ?_
    refine .bind (.emitAll [_]) fun _ => ?_
    exact .bind (.scanAll targets .empty) fun known => .emitAll _

-- The statements are long texts, which are compared by their first characters only.
set_option maxRecDepth 4096 in
theorem Superusers.statement_ne (version : ServerVersion) (timeout : Nat) :
    statement version ≠ timeoutStatement timeout := by
  unfold statement
  split
  · exact ne_timeoutStatement (by decide) timeout
  · exact append_ne_timeoutStatement (by decide) _ timeout

theorem Superusers.update_matches (settings : Settings) (ctx : ContextId) :
    Task.Matches ctx (update settings ctx : Task σ τ Unit)
      (update settings ctx : Task σ' τ' Unit) := by
  refine .target fun t t' ht => ?_
  rw [ht]
  refine .bind (.query (statement_ne t'.version)) fun rows => ?_
  refine .bind (.finish _) fun roles => ?_
  exact .bind (.emitAll _) fun _ => .emitAll [_]

set_option maxRecDepth 4096 in
theorem Transactions.statement_ne (timeout : Nat) : statement ≠ timeoutStatement timeout :=
  ne_timeoutStatement (by decide) timeout

theorem Transactions.update_matches (ctx : ContextId) :
    Task.Matches ctx (update ctx : Task σ τ Unit) (update ctx : Task σ' τ' Unit) := by
  refine .bind (.query statement_ne) fun rows => ?_
  exact .bind (.finish _) fun samples => .emitAll samples

set_option maxRecDepth 4096 in
theorem StandbySlots.statement_ne (timeout : Nat) : statement ≠ timeoutStatement timeout :=
  ne_timeoutStatement (by decide) timeout

theorem StandbySlots.update_matches (ctx : ContextId) :
    Task.Matches ctx (update ctx : Task σ τ Unit) (update ctx : Task σ' τ' Unit) := by
  refine .target fun t t' ht => ?_
  rw [ht]
  split
  · exact .finish (.done ())
  · refine .bind (.query statement_ne) fun rows => ?_
    exact .bind (.finish _) fun n => .emitAll [_]

namespace BuildTimes

theorem existsStatement_ne (function : String) (timeout : Nat) :
    existsStatement function ≠ timeoutStatement timeout := by
  unfold existsStatement
  rw [String.append_assoc]
  exact append_ne_timeoutStatement (by decide) _ timeout

theorem callStatement_ne (function : String) (timeout : Nat) :
    callStatement function ≠ timeoutStatement timeout := by
  unfold callStatement
  rw [String.append_assoc]
  exact append_ne_timeoutStatement (by decide) _ timeout

theorem buildTime_matches (ctx : ContextId) (function : String) :
    Task.Matches ctx (buildTime ctx function : Task σ τ _)
      (buildTime ctx function : Task σ' τ' _) := by
  refine .bind (.query (existsStatement_ne function)) fun rows => ?_
  refine .bind (.finish _) fun present => ?_
  split
  · exact .bind (.query (callStatement_ne function)) fun rows => .finish _
  · exact .finish (.done none)

theorem gather_matches (ctx : ContextId) (metrics : List Metric) :
    Task.Matches ctx (gather ctx metrics : Task σ τ _) (gather ctx metrics : Task σ' τ' _) := by
  induction metrics with
  | nil => exact .finish (.done [])
  | cons m rest ih =>
    refine .bind (buildTime_matches ctx m.name) fun time => ?_
    exact .bind ih fun samples => .finish (.done _)

theorem update_matches (ctx : ContextId) :
    Task.Matches ctx (update ctx : Task σ τ Unit) (update ctx : Task σ' τ' Unit) := by
  refine .bind (gather_matches ctx metrics) fun samples => ?_
  split
  · exact .finish (.failed .noData)
  · exact .emitAll samples

end BuildTimes

end PgVitals

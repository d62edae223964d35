import PgVitals.Proofs.Collector.Builtin
import PgVitals.Proofs.Collector.Report
import PgVitals.Proofs.Target.Heeding

/-!
# Collectors heed the end of a context

Each collector that comes with the program passes on the fault of a context that ended, and makes no
call behind it.  That of the extensions passes over a database that cannot be read, but not when it
was told that the context has ended: then it scans no later database and reports no extension.

Under a context that has ended before, a collector fails at its first statement and emits nothing.
The one for the slots of standbys asks old servers for nothing, and so succeeds there all the same.
-/

namespace PgVitals

variable {σ τ ρ α β : Type}

/-! ## Answers -/

namespace Row

theorem read_untold (row : Row) (column : Nat) (kind : String) (reader : String → Except String α) :
    Untold (row.read column kind reader) := by
  rw [read]
  split
  · rename_i fault htext
    exact untold_error (row.text_untold column fault htext)
  · exact untold_ok _
  · split
    · exact untold_ok _
    · exact untold_error rfl

end Row

theorem Extensions.readDatabases_untold (settings : Settings) (rows : List Row) :
    Untold (readDatabases settings rows) := by
  rcases hlegible : rows.all hasColumn with _ | _
  · obtain ⟨detail, hread⟩ := readDatabases_of_illegible settings hlegible
    rw [hread]
    exact untold_error rfl
  · rw [readDatabases_of_legible settings hlegible]
    exact untold_ok _

theorem Extensions.readExtensions_untold (rows : List Row) : Untold (readExtensions rows) := by
  rcases hlegible : rows.all isLegible with _ | _
  · obtain ⟨detail, hread⟩ := readExtensions_of_illegible hlegible
    rw [hread]
    exact untold_error rfl
  · rw [readExtensions_of_legible hlegible]
    exact untold_ok _

theorem Superusers.readRoles_untold (expected : List String) (rows : List Row) :
    Untold (readRoles expected rows) := by
  -- A row brings no fault but that of a column that is missing, which tells of no context.
  induction rows with
  | nil => exact untold_ok _
  | cons row rest ih =>
    rw [readRoles]
    split
    · rename_i fault htext
      exact untold_error (row.text_untold 0 fault htext)
    · exact ih
    · split
      · exact ih
      · split
        · rename_i fault htext
          exact untold_error (row.text_untold 1 fault htext)
        · exact ih.map _

theorem Transactions.readNumbers_untold (row : Row) (columns : List Nat) :
    Untold (readNumbers row columns) := by
  induction columns with
  | nil => exact untold_ok _
  | cons column rest ih =>
    rw [readNumbers]
    split
    · rename_i fault hnumber
      exact untold_error (row.read_untold _ _ _ fault hnumber)
    · exact ih.map _

theorem Transactions.read_untold (rows : List Row) : Untold (read rows) := by
  cases rows with
  | nil => exact untold_error rfl
  | cons row rest =>
    refine (readNumbers_untold row _).bind fun counts => ?_
    exact (row.read_untold _ _ _).bind fun age => untold_ok _

theorem StandbySlots.read_untold (rows : List Row) : Untold (read rows) := by
  cases rows with
  | nil => exact untold_ok _
  | cons row rest => exact (row.read_untold _ _ _).map _

theorem BuildTimes.readExists_untold (rows : List Row) : Untold (readExists rows) := by
  cases rows with
  | nil => exact untold_ok _
  | cons row rest => exact (row.read_untold _ _ _).map _

theorem BuildTimes.readTime_untold (function : String) (rows : List Row) :
    Untold (readTime function rows) := by
  cases rows with
  | nil => exact untold_error rfl
  | cons row rest => exact row.read_untold _ _ _

/-! ## Tasks -/

namespace Task

/-- The task without its samples. -/
def silent (task : Task σ τ α) : Step (Bench σ τ) α := fun b => ((task b).1, (task b).2.2)

theorem silent_bind (task : Task σ τ α) (next : α → Task σ τ β) :
    (task >>= next).silent = task.silent >>= fun value => (next value).silent := by
  funext b
  rcases hrun : task b with ⟨value | fault | note, samples, after⟩
  · have hsilent : task.silent b = (.done value, after) := by rw [silent, hrun]
    rw [silent, bind_of_done hrun, Step.bind_of_done hsilent]
    rfl
  · have hsilent : task.silent b = (.failed fault, after) := by rw [silent, hrun]
    rw [silent, bind_of_failed hrun, Step.bind_of_failed hsilent]
  · have hsilent : task.silent b = (.crashed note, after) := by rw [silent, hrun]
    rw [silent, bind_of_crashed hrun, Step.bind_of_crashed hsilent]

/-- The task keeps the invariant of its site, and ends as its calls told it. -/
def Heeds (c : Connector σ τ) (ctx : ContextId) (I : Site (Audited σ) (Traced τ) → Prop)
    (task : Task (Audited σ) (Traced τ) α) : Prop :=
  Step.Heeds c ctx (fun b => b.scene) (fun b => I b.toSite) task.silent

/-- On a site with the invariant whose context has ended, the task fails with the fault of the
context and emits nothing. -/
def Stops (ctx : ContextId) (I : Site (Audited σ) (Traced τ) → Prop)
    (task : Task (Audited σ) (Traced τ) α) : Prop :=
  ∀ b k, I b.toSite → b.scene.contexts.ending? ctx = some k →
    (task b).1 = .failed k.fault ∧ (task b).2.1 = []

variable {c : Connector σ τ} {ctx : ContextId} {log : σ → ρ}
  {I : Site (Audited σ) (Traced τ) → Prop}

theorem heeds_pure (value : α) : Heeds c ctx I (pure value) := Step.heeds_pure value

theorem heeds_fail {fault : Fault} (h : fault.isCancellation = false) :
    Heeds c ctx I (fail fault : Task (Audited σ) (Traced τ) α) := Step.heeds_fail h

theorem heeds_ofExcept {result : Except Fault α} (h : Untold result) :
    Heeds c ctx I (finish (.ofExcept result)) := Step.heeds_ofExcept h

theorem heeds_emitAll (samples : List Sample) : Heeds c ctx I (emitAll samples) :=
  Step.heeds_pure ()

theorem heeds_emit (s : Sample) : Heeds c ctx I (emit s) := Step.heeds_pure ()

theorem heeds_draw (f : Draws → α × Draws) : Heeds c ctx I (draw f) := fun _ hb =>
  ⟨hb, [], .nil _, .nothing rfl⟩

theorem heeds_onSite {step : Step (Site (Audited σ) (Traced τ)) α}
    (h : Step.Heeds c ctx Site.scene I step) : Heeds c ctx I (onSite step) := fun b hb =>
  h b.toSite hb

theorem Heeds.bind {task : Task (Audited σ) (Traced τ) α}
    {next : α → Task (Audited σ) (Traced τ) β} (h : Heeds c ctx I task)
    (hnext : ∀ value, Heeds c ctx I (next value)) : Heeds c ctx I (task >>= next) := by
  rw [Heeds, silent_bind]
  exact Step.Heeds.bind h hnext

theorem query_heeds (hI : Holding c I) (sql : String) : Heeds c ctx I (query ctx sql) :=
  heeds_onSite (Target.query_heeds hI sql)

theorem target_heeds : Heeds c ctx I target := heeds_onSite Target.this_heeds

theorem query_stops (hc : c.Attentive ctx log) (hI : Holding c I) (sql : String) :
    Stops ctx I (query ctx sql) := fun b _ hb hk =>
  ⟨Target.query_of_ended hc (hI.ready b.toSite hb) hk sql, rfl⟩

theorem Stops.bind {task : Task (Audited σ) (Traced τ) α} (h : Stops ctx I task)
    (next : α → Task (Audited σ) (Traced τ) β) : Stops ctx I (task >>= next) := by
  intro b k hb hk
  obtain ⟨houtcome, hsamples⟩ := h b k hb hk
  rcases hrun : task b with ⟨outcome, samples, after⟩
  rw [hrun] at houtcome hsamples
  obtain rfl : outcome = .failed k.fault := houtcome
  rw [bind_of_failed hrun]
  exact ⟨rfl, hsamples⟩

theorem Stops.after_target {next : Target (Audited σ) (Traced τ) → Task (Audited σ) (Traced τ) α}
    (h : ∀ t, Stops ctx I (next t)) : Stops ctx I (target >>= next) := by
  intro b k hb hk
  have hrun : (target : Task (Audited σ) (Traced τ) _) b = (.done b.target, [], b) := rfl
  rw [bind_of_done hrun]
  exact h b.target b k hb hk

end Task

section

variable {c : Connector σ τ} {ctx : ContextId} {log : σ → ρ}
  {I : Site (Audited σ) (Traced τ) → Prop}

/-! ## Extensions -/

namespace Extensions

theorem scan_heeds (hc : c.Attentive ctx log) (hI : Holding c I) (database : String) :
    Step.Heeds c ctx Site.scene I (scan ctx database) := by
  refine Target.this_bind_heeds hI fun t ht => ?_
  refine (Target.onScene_heeds (Sibling.connect_heeds hc ht database) hI).bind fun sibling => ?_
  rw [ht]
  refine Target.onScene_heeds (Step.Heeds.ensuring ?_ (fun _ _ => trivial)
    (sibling.close_closes hc)) hI
  exact (sibling.query_heeds ctx _).bind fun rows =>
    Step.heeds_ofExcept (readExtensions_untold rows)

/-- A database is passed over for every fault save that of the context. -/
theorem scanAll_heeds (hc : c.Attentive ctx log) (hI : Holding c I) (databases : List String)
    (known : Known) : Step.Heeds c ctx Site.scene I (scanAll ctx databases known) := by
  induction databases generalizing known with
  | nil => exact Step.heeds_pure known
  | cons database rest ih =>
    refine (scan_heeds hc hI database).attempt_bind ?_ ?_
    · intro outcome houtcome
      cases outcome with
      | done found => exact ih _
      | failed fault =>
        cases hfault : fault.isCancellation with
        | true =>
          rw [Outcome.cancellation?, hfault] at houtcome
          cases houtcome
        | false =>
          simp only [hfault]
          exact ih known
      | crashed note => exact Step.heeds_finish rfl
    · intro fault hfault
      simp only [hfault, if_true]
      exact ⟨Step.keeps_fail fault, Step.closes_finish rfl⟩

theorem update_heeds (hc : c.Attentive ctx log) (hI : Holding c I) (settings : Settings) :
    Task.Heeds c ctx I (update settings ctx) := by
  refine (Task.query_heeds hI _).bind fun rows => ?_
  refine (Task.heeds_ofExcept (readDatabases_untold settings rows)).bind fun names => ?_
  refine (Task.heeds_emit _).bind fun _ => ?_
  split
  · exact Task.heeds_emit _
  · refine (Task.heeds_draw _).bind fun databases => ?_
    refine (Task.heeds_emit _).bind fun _ => ?_
    refine (Task.heeds_onSite (scanAll_heeds hc hI databases _)).bind fun known => ?_
    exact Task.heeds_emitAll _

theorem update_stops (hc : c.Attentive ctx log) (hI : Holding c I) (settings : Settings) :
    Task.Stops ctx I (update settings ctx) :=
  (Task.query_stops hc hI _).bind _

/-- An update that did not succeed has reported no extension. -/
theorem update_silent {settings : Settings} {b : Bench σ τ}
    (h : (update settings ctx b).1 ≠ .done ()) :
    ∀ s ∈ (update settings ctx b).2.1, s.name ≠ info.fullName := by
  apply ne_info_of_not_done
  cases hended : (update settings ctx b).1 with
  | done value => exact absurd hended h
  | failed fault => rfl
  | crashed note => rfl

end Extensions

/-! ## The other collectors -/

namespace Superusers

theorem update_heeds (hI : Holding c I) (settings : Settings) :
    Task.Heeds c ctx I (update settings ctx) := by
  refine Task.target_heeds.bind fun t => ?_
  refine (Task.query_heeds hI _).bind fun rows => ?_
  refine (Task.heeds_ofExcept (readRoles_untold _ rows)).bind fun roles => ?_
  exact (Task.heeds_emitAll _).bind fun _ => Task.heeds_emit _

theorem update_stops (hc : c.Attentive ctx log) (hI : Holding c I) (settings : Settings) :
    Task.Stops ctx I (update settings ctx) :=
  .after_target fun _ => (Task.query_stops hc hI _).bind _

end Superusers

namespace Transactions

theorem update_heeds (hI : Holding c I) : Task.Heeds c ctx I (update ctx) := by
  refine (Task.query_heeds hI _).bind fun rows => ?_
  exact (Task.heeds_ofExcept (read_untold rows)).bind fun samples => Task.heeds_emitAll _

theorem update_stops (hc : c.Attentive ctx log) (hI : Holding c I) :
    Task.Stops ctx I (update ctx) :=
  (Task.query_stops hc hI _).bind _

end Transactions

namespace StandbySlots

theorem update_heeds (hI : Holding c I) : Task.Heeds c ctx I (update ctx) := by
  refine Task.target_heeds.bind fun t => ?_
  split
  · exact Task.heeds_pure ()
  · refine (Task.query_heeds hI _).bind fun rows => ?_
    exact (Task.heeds_ofExcept (read_untold rows)).bind fun n => Task.heeds_emit _

/-- An old server is asked for nothing. -/
theorem update_of_below {b : Bench σ τ} (h : b.target.version.isBelow settingSince = true) :
    update ctx b = (.done (), [], b) := by
  have hrun : (Task.target : Task σ τ _) b = (.done b.target, [], b) := rfl
  rw [update, Task.bind_of_done hrun, if_pos h]
  rfl

theorem update_of_ended (hc : c.Attentive ctx log) (hI : Holding c I)
    {b : Bench (Audited σ) (Traced τ)} {k : Cause} (hb : I b.toSite)
    (hk : b.scene.contexts.ending? ctx = some k)
    (h : b.target.version.isBelow settingSince = false) :
    (update ctx b).1 = .failed k.fault ∧ (update ctx b).2.1 = [] := by
  have hrun : (Task.target : Task (Audited σ) (Traced τ) _) b = (.done b.target, [], b) := rfl
  have hnot : ¬b.target.version.isBelow settingSince = true := by
    rw [h]
    exact Bool.false_ne_true
  rw [update, Task.bind_of_done hrun, if_neg hnot]
  exact (Task.query_stops hc hI statement).bind _ b k hb hk

end StandbySlots

namespace BuildTimes

theorem buildTime_heeds (hI : Holding c I) (function : String) :
    Task.Heeds c ctx I (buildTime ctx function) := by
  refine (Task.query_heeds hI _).bind fun rows => ?_
  refine (Task.heeds_ofExcept (readExists_untold rows)).bind fun present => ?_
  split
  · refine (Task.query_heeds hI _).bind fun rows => ?_
    exact Task.heeds_ofExcept (readTime_untold function rows)
  · exact Task.heeds_pure none

theorem gather_heeds (hI : Holding c I) (metrics : List Metric) :
    Task.Heeds c ctx I (gather ctx metrics) := by
  induction metrics with
  | nil => exact Task.heeds_pure []
  | cons m rest ih =>
    refine (buildTime_heeds hI _).bind fun time => ?_
    exact ih.bind fun samples => Task.heeds_pure _

theorem update_heeds (hI : Holding c I) : Task.Heeds c ctx I (update ctx) := by
  refine (gather_heeds hI metrics).bind fun samples => ?_
  split
  · exact Task.heeds_fail rfl
  · exact Task.heeds_emitAll _

theorem buildTime_stops (hc : c.Attentive ctx log) (hI : Holding c I) (function : String) :
    Task.Stops ctx I (buildTime ctx function) :=
  (Task.query_stops hc hI _).bind _

theorem update_stops (hc : c.Attentive ctx log) (hI : Holding c I) :
    Task.Stops ctx I (update ctx) :=
  ((buildTime_stops hc hI _).bind _).bind _

end BuildTimes

end

/-- Why a context has ended around a site, if it has. -/
def Site.ending? (site : Site σ τ) (ctx : ContextId) : Option Cause :=
  site.scene.contexts.ending? ctx

/-! ## Collectors under their names -/

/-- Whether the collector of a name has nothing to ask a server of a version. -/
def asksNothing (name : String) (version : ServerVersion) : Bool :=
  name = StandbySlots.subsystem && version.isBelow StandbySlots.settingSince

/-- The collector of a name passes on what its calls tell.  Under a context that has ended it fails
and emits nothing, unless it has nothing to ask; and the one for extensions reports none of them
unless it succeeds. -/
structure Collector.Heeds (c : Connector σ τ) (ctx : ContextId) (name : String)
    (collector : Collector (Audited σ) (Traced τ)) : Prop where
  heeds : ∀ I, Holding c I → Task.Heeds c ctx I (collector.update ctx)
  ended : ∀ b k, Ready c b.toSite → b.toSite.ending? ctx = some k →
    (collector.update ctx b).1 =
        (if asksNothing name b.target.version then .done () else .failed k.fault) ∧
      (collector.update ctx b).2.1 = []
  silent : name = Extensions.subsystem → ∀ b, (collector.update ctx b).1 ≠ .done () →
    ∀ s ∈ (collector.update ctx b).2.1, s.name ≠ Extensions.info.fullName

namespace Collector.Heeds

variable {c : Connector σ τ} {ctx : ContextId} {name : String}
  {collector : Collector (Audited σ) (Traced τ)}

/-- A collector of another name that asks before it emits. -/
theorem of_stops (hslots : name ≠ StandbySlots.subsystem)
    (hextensions : name ≠ Extensions.subsystem)
    (h : ∀ I, Holding c I → Task.Heeds c ctx I (collector.update ctx))
    (hstops : Task.Stops ctx (Ready c) (collector.update ctx)) : collector.Heeds c ctx name where
  heeds := h
  ended := by
    intro b k hb hk
    have hasks : asksNothing name b.target.version = false := by
      rw [asksNothing, decide_eq_false hslots, Bool.false_and]
    rw [hasks]
    exact hstops b k hb hk
  silent := fun hname => absurd hname hextensions

end Collector.Heeds

section

variable {c : Connector σ τ} {ctx : ContextId} {log : σ → ρ} (hc : c.Attentive ctx log)
include hc

theorem Extensions.collector_heeds (settings : Settings) (draws : Draws) :
    (collector settings draws).Heeds c ctx subsystem where
  heeds := fun _ hI => update_heeds hc hI settings
  ended := by
    intro b k hb hk
    have hasks : asksNothing subsystem b.target.version = false := by
      rw [asksNothing, decide_eq_false (by decide +kernel), Bool.false_and]
    rw [hasks]
    exact update_stops hc holding_ready settings b k hb hk
  silent := fun _ _ => update_silent

theorem Superusers.collector_heeds (settings : Settings) :
    (collector settings).Heeds c ctx subsystem :=
  .of_stops (by decide +kernel) (by decide +kernel) (fun _ hI => update_heeds hI settings)
    (update_stops hc holding_ready settings)

theorem Transactions.collector_heeds : collector.Heeds c ctx subsystem :=
  .of_stops (by decide +kernel) (by decide +kernel) (fun _ hI => update_heeds hI)
    (update_stops hc holding_ready)

theorem StandbySlots.collector_heeds : collector.Heeds c ctx subsystem where
  heeds := fun _ hI => update_heeds hI
  ended := by
    intro b k hb hk
    rw [asksNothing, decide_eq_true rfl, Bool.true_and]
    change (update ctx b).1 = _ ∧ (update ctx b).2.1 = _
    cases hbelow : b.target.version.isBelow settingSince with
    | true =>
      rw [update_of_below hbelow]
      exact ⟨rfl, rfl⟩
    | false => exact update_of_ended hc holding_ready hb hk hbelow
  silent := fun hname => absurd hname (by decide +kernel)

theorem BuildTimes.collector_heeds : collector.Heeds c ctx subsystem :=
  .of_stops (by decide +kernel) (by decide +kernel) (fun _ hI => update_heeds hI)
    (update_stops hc holding_ready)

theorem Catalogue.builtin_heeds {draws : Draws} {settings : Settings}
    {made : List (String × Collector (Audited σ) (Traced τ))}
    (h : (builtin draws).instantiate settings = .ok made) :
    ∀ p ∈ made, p.2.Heeds c ctx p.1 := by
  intro p hp
  obtain ⟨e, he, hname, hmake⟩ := exists_entry_of_mem h hp
  rw [← hname]
  simp only [builtin, List.mem_cons, List.not_mem_nil, or_false] at he
  obtain rfl | rfl | rfl | rfl | rfl := he <;> rw [← Except.ok.inj hmake]
  · exact Extensions.collector_heeds hc settings draws
  · exact Superusers.collector_heeds hc settings
  · exact Transactions.collector_heeds hc
  · exact StandbySlots.collector_heeds hc
  · exact BuildTimes.collector_heeds hc

end

end PgVitals

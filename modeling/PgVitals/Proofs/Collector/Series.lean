import Mathlib.Data.List.Nodup
import Mathlib.Data.Option.Basic
import PgVitals.Collector.Builtin
import PgVitals.Proofs.Collector.Superusers
import PgVitals.Proofs.Collector.Tasks
import PgVitals.Scrape.Report

/-!
# The series that collectors emit

Each collector emits samples of the metrics that it declares, and no two of the same series: the
name of an extension is a key of a dictionary, the ages of transactions are fixed, and a role is
emitted once if it is listed once.  This holds however an update ends, for a collector reads all of
an answer before it emits any of it.
-/

namespace PgVitals

variable {σ τ α β : Type}

/-! ## Samples of some metrics -/

/-- Samples of the metrics, each of another series. -/
structure SeriesOf (metrics : List Metric) (samples : List Sample) : Prop where
  named : ∀ s ∈ samples, ∃ m ∈ metrics, s.name = m.fullName
  nodup : (samples.map Sample.series).Nodup

namespace SeriesOf

variable {metrics metrics' : List Metric} {samples samples' : List Sample}

theorem nil (metrics : List Metric) : SeriesOf metrics [] :=
  ⟨List.forall_mem_nil _, List.nodup_nil⟩

theorem single (m : Metric) (value : Float) (labels : List String) :
    SeriesOf [m] [m.gauge value labels] :=
  ⟨List.forall_mem_singleton.2 ⟨m, List.mem_singleton_self m, rfl⟩, List.nodup_singleton _⟩

/-- Samples of one metric that differ in a label. -/
theorem of_label (m : Metric) (label : String) {values : List β} {sample : β → Sample}
    {f : β → String}
    (hname : ∀ v ∈ values, (sample v).name = m.fullName)
    (hlabel : ∀ v ∈ values, (sample v).label? label = some (f v)) (hnodup : (values.map f).Nodup) :
    SeriesOf [m] (values.map sample) := by
  constructor
  · intro s hs
    obtain ⟨v, hv, rfl⟩ := List.mem_map.1 hs
    exact ⟨m, List.mem_singleton_self m, hname v hv⟩
  · have hlabels : ((values.map sample).map Sample.series).map (fun p => p.2.get? label) =
        (values.map f).map some := by
      rw [List.map_map, List.map_map, List.map_map]
      exact List.map_congr_left hlabel
    refine List.Nodup.of_map (fun p => p.2.get? label) ?_
    rw [hlabels]
    exact hnodup.map (Option.some_injective String)

/-- Samples of metrics that have no name in common. -/
theorem append (h : SeriesOf metrics samples) (h' : SeriesOf metrics' samples')
    (hnames : ∀ m ∈ metrics, ∀ m' ∈ metrics', m.fullName ≠ m'.fullName) :
    SeriesOf (metrics ++ metrics') (samples ++ samples') := by
  constructor
  · intro s hs
    obtain hs | hs := List.mem_append.1 hs
    · obtain ⟨m, hm, hname⟩ := h.named s hs
      exact ⟨m, List.mem_append_left _ hm, hname⟩
    · obtain ⟨m, hm, hname⟩ := h'.named s hs
      exact ⟨m, List.mem_append_right _ hm, hname⟩
  · rw [List.map_append]
    refine h.nodup.append h'.nodup fun series hseries hseries' => ?_
    obtain ⟨s, hs, rfl⟩ := List.mem_map.1 hseries
    obtain ⟨s', hs', hsame⟩ := List.mem_map.1 hseries'
    obtain ⟨m, hm, hname⟩ := h.named s hs
    obtain ⟨m', hm', hname'⟩ := h'.named s' hs'
    have hnames' : s'.name = s.name := congrArg Prod.fst hsame
    rw [hname, hname'] at hnames'
    exact hnames m hm m' hm' hnames'.symm

theorem cons (h : SeriesOf metrics samples) (m : Metric) (value : Float) (labels : List String)
    (hnames : ∀ m' ∈ metrics, m.fullName ≠ m'.fullName) :
    SeriesOf (m :: metrics) (m.gauge value labels :: samples) :=
  (single m value labels).append h (List.forall_mem_singleton.2 hnames)

end SeriesOf

/-! ## What tasks emit -/

namespace Task

variable {P : List Sample → Prop} {b : Bench σ τ}

/-- A task that emits nothing leaves it to the one after it. -/
theorem emits_bind {task : Task σ τ α} {next : α → Task σ τ β} (hnone : P [])
    (hsilent : (task b).2.1 = [])
    (hnext : ∀ value after, task b = (.done value, [], after) → P (next value after).2.1) :
    P ((task >>= next) b).2.1 := by
  rcases hrun : task b with ⟨value | fault | note, samples, after⟩ <;> rw [hrun] at hsilent <;>
    obtain rfl : samples = [] := hsilent
  · rw [bind_of_done hrun]
    exact hnext value after hrun
  · rw [bind_of_failed hrun]
    exact hnone
  · rw [bind_of_crashed hrun]
    exact hnone

/-- A sequence that comes to a value came to one in both of its parts. -/
theorem exists_of_bind_done {task : Task σ τ α} {next : α → Task σ τ β} {value : β}
    {samples : List Sample} {after : Bench σ τ}
    (h : (task >>= next) b = (.done value, samples, after)) :
    ∃ first emitted between more, task b = (.done first, emitted, between) ∧
      next first between = (.done value, more, after) ∧ samples = emitted ++ more := by
  rcases hrun : task b with ⟨first | fault | note, emitted, between⟩
  · rw [bind_of_done hrun] at h
    obtain ⟨hvalue, hsamples, hafter⟩ : (next first between).1 = .done value ∧
        emitted ++ (next first between).2.1 = samples ∧ (next first between).2.2 = after := by
      simpa only [Prod.mk.injEq] using h
    refine ⟨first, emitted, between, _, rfl, ?_, hsamples.symm⟩
    rw [← hvalue, ← hafter]
  · rw [bind_of_failed hrun] at h
    cases h
  · rw [bind_of_crashed hrun] at h
    cases h

theorem emitted_emitAll_bind (samples : List Sample) (next : Unit → Task σ τ β) (b : Bench σ τ) :
    ((emitAll samples >>= next) b).2.1 = samples ++ (next () b).2.1 := by
  have hrun : emitAll samples b = (.done (), samples, b) := rfl
  rw [bind_of_done hrun]

theorem emitted_emit_bind (s : Sample) (next : Unit → Task σ τ β) (b : Bench σ τ) :
    ((emit s >>= next) b).2.1 = s :: (next () b).2.1 :=
  emitted_emitAll_bind [s] next b

end Task

theorem ok_of_finish_ofExcept {result : Except Fault α} {b after : Bench σ τ} {value : α}
    (h : Task.finish (.ofExcept result) b = (.done value, [], after)) : result = .ok value := by
  have hdone : Outcome.ofExcept result = .done value := congrArg Prod.fst h
  cases result with
  | error fault => cases hdone
  | ok read => rw [Outcome.done.inj hdone]

/-! ## Transactions -/

namespace Transactions

theorem label?_threshold (n : Float) (threshold : String) :
    (count.gauge n [threshold]).label? "threshold" = some threshold := by
  change (Dictionary.insert .empty "threshold" threshold).get? "threshold" = _
  rw [Dictionary.get?_insert, if_pos rfl]

theorem map_fst_zip_sublist (keys : List α) (values : List β) :
    ((keys.zip values).map Prod.fst).Sublist keys := by
  induction keys generalizing values with
  | nil => exact List.nil_sublist []
  | cons key keys ih =>
    cases values with
    | nil => exact List.nil_sublist _
    | cons value values => exact (ih values).cons_cons key

theorem read_series {rows : List Row} {samples : List Sample} (h : read rows = .ok samples) :
    SeriesOf [count, oldest] samples := by
  rcases rows with _ | ⟨row, rest⟩
  · cases h
  · rw [read] at h
    -- All numbers of the row are read before anything is emitted.
    rcases hcounts : readNumbers row (List.range thresholds.length) with fault | counts
    · rw [hcounts] at h
      cases h
    · rcases hage : row.number thresholds.length with fault | age
      · rw [hcounts, hage] at h
        cases h
      · rw [hcounts, hage] at h
        obtain rfl := Except.ok.inj h
        have hthresholds : ((thresholds.zip counts).map Prod.fst).Nodup :=
          (map_fst_zip_sublist thresholds counts).nodup (by decide)
        have hcount : SeriesOf [count] ((thresholds.zip counts).map fun p =>
            count.gauge p.2 [p.1]) :=
          SeriesOf.of_label count "threshold" (fun _ _ => rfl)
            (fun v _ => label?_threshold v.2 v.1) hthresholds
        exact hcount.append (SeriesOf.single oldest _ []) (by decide +kernel)

theorem update_series (ctx : ContextId) (b : Bench σ τ) :
    SeriesOf [count, oldest] (update ctx b).2.1 := by
  refine Task.emits_bind (SeriesOf.nil _) rfl fun rows after _ => ?_
  refine Task.emits_bind (SeriesOf.nil _) rfl fun samples after hread => ?_
  exact read_series (ok_of_finish_ofExcept hread)

end Transactions

/-! ## Standby slots -/

theorem StandbySlots.update_series (ctx : ContextId) (b : Bench σ τ) :
    SeriesOf [invalid] (update ctx b).2.1 := by
  refine Task.emits_bind (SeriesOf.nil _) rfl fun t after _ => ?_
  split
  · exact SeriesOf.nil _
  · refine Task.emits_bind (SeriesOf.nil _) rfl fun rows after _ => ?_
    exact Task.emits_bind (SeriesOf.nil _) rfl fun n after _ => SeriesOf.single invalid _ []

/-! ## Build times -/

namespace BuildTimes

variable {ctx : ContextId}

theorem buildTime_silent (function : String) (b : Bench σ τ) :
    (buildTime ctx function b).2.1 = [] := by
  refine Task.emits_bind (P := (· = [])) rfl rfl fun rows after _ => ?_
  refine Task.emits_bind (P := (· = [])) rfl rfl fun present after _ => ?_
  split
  · exact Task.emits_bind (P := (· = [])) rfl rfl fun rows after _ => rfl
  · rfl

theorem gather_silent (metrics : List Metric) (b : Bench σ τ) :
    (gather ctx metrics b).2.1 = [] := by
  induction metrics generalizing b with
  | nil => rfl
  | cons m rest ih =>
    refine Task.emits_bind (P := (· = [])) rfl (buildTime_silent m.name b) fun time after _ => ?_
    exact Task.emits_bind (P := (· = [])) rfl (ih after) fun samples after _ => rfl

/-- At most one sample of each metric. -/
theorem gather_series {metrics : List Metric} (hnames : (metrics.map Metric.fullName).Nodup)
    {b after : Bench σ τ} {samples : List Sample}
    (h : gather ctx metrics b = (.done samples, [], after)) : SeriesOf metrics samples := by
  induction metrics generalizing b samples with
  | nil =>
    cases h
    exact SeriesOf.nil []
  | cons m rest ih =>
    obtain ⟨hm, hrest⟩ := List.nodup_cons.1 hnames
    obtain ⟨time, _, between, _, -, h, -⟩ := Task.exists_of_bind_done h
    obtain ⟨more, emitted, final, _, hgather, hdone, -⟩ := Task.exists_of_bind_done h
    obtain rfl : [] = emitted := by
      rw [← gather_silent rest between, hgather]
    cases hdone
    have hhere : SeriesOf [m] (time.map fun t => m.gauge t []).toList := by
      cases time with
      | none => exact SeriesOf.nil [m]
      | some t => exact SeriesOf.single m t []
    refine hhere.append (ih hrest hgather) (List.forall_mem_singleton.2 fun m' hm' heq => hm ?_)
    rw [heq]
    exact List.mem_map_of_mem hm'

theorem update_series (b : Bench σ τ) : SeriesOf metrics (update ctx b).2.1 := by
  refine Task.emits_bind (SeriesOf.nil _) (gather_silent metrics b) fun samples after h => ?_
  split
  · exact SeriesOf.nil _
  · exact gather_series (by decide +kernel) h

end BuildTimes

/-! ## Superusers -/

namespace Superusers

/-- The names of roles in an answer, NULLs left out. -/
def roleNames (rows : List Row) : List String := rows.filterMap fun row => row.cells.head?.join

theorem label?_rolname (name access : String) :
    (role.gauge 1 [name, access]).label? "rolname" = some name := by
  change (Dictionary.insert (.insert .empty "rolname" name) "access_type" access).get? "rolname" = _
  rw [Dictionary.get?_insert, if_neg (by decide), Dictionary.get?_insert, if_pos rfl]

/-- The roles reported are listed in the answer, in its order. -/
theorem readRoles_sublist {expected : List String} {rows : List Row}
    {roles : List (String × String)} (h : readRoles expected rows = .ok roles) :
    (roles.map Prod.fst).Sublist (roleNames rows) := by
  obtain ⟨-, rfl⟩ := readRoles_eq_ok_iff.1 h
  clear h
  induction rows with
  | nil => exact List.nil_sublist []
  | cons row rest ih =>
    rcases row with ⟨_ | ⟨_ | name, more⟩⟩
    · exact ih
    · exact ih
    · have hnames : roleNames (⟨some name :: more⟩ :: rest) = name :: roleNames rest := rfl
      rw [hnames]
      by_cases hexpected : expected.contains name = true
      · have hnone : unexpected? expected ⟨some name :: more⟩ = none := by
          simp only [unexpected?, if_pos hexpected]
        rw [List.filterMap_cons_none hnone]
        exact ih.cons name
      · have hsome : unexpected? expected ⟨some name :: more⟩ =
            some (name, more.head?.join.getD "direct") := by
          simp only [unexpected?, if_neg hexpected]
        rw [List.filterMap_cons_some hsome]
        exact ih.cons_cons name

/-- The update asks one statement and does nothing else to the site. -/
theorem update_site (settings : Settings) (ctx : ContextId) (b : Bench σ τ) :
    (update settings ctx b).2.2.toSite =
      (Target.query ctx (statement b.target.version) b.toSite).2 := by
  rcases hquery : Target.query ctx (statement b.target.version) b.toSite with
    ⟨rows | fault | note, after⟩
  · rw [update_of_rows hquery]
    cases readRoles settings.expectedSuperusers rows <;> rfl
  · rw [update_of_not_done rfl hquery]
  · rw [update_of_not_done rfl hquery]

theorem update_series (settings : Settings) (ctx : ContextId) (b : Bench σ τ)
    (h : ∀ rows, (Target.query ctx (statement b.target.version) b.toSite).1 = .done rows →
      (roleNames rows).Nodup) :
    SeriesOf [role, count] (update settings ctx b).2.1 := by
  -- Nothing is emitted before the roles are read, so only the last step emits.
  refine Task.emits_bind (SeriesOf.nil _) rfl fun t same htarget => ?_
  obtain ⟨rfl, rfl⟩ : b.target = t ∧ b = same := by
    cases htarget
    exact ⟨rfl, rfl⟩
  refine Task.emits_bind (SeriesOf.nil _) rfl fun rows after hquery => ?_
  have hnodup : (roleNames rows).Nodup := h rows (congrArg Prod.fst hquery)
  refine Task.emits_bind (SeriesOf.nil _) rfl fun roles after hread => ?_
  have hroles : ((roles.map Prod.fst)).Nodup :=
    (readRoles_sublist (ok_of_finish_ofExcept hread)).nodup hnodup
  have hrole : SeriesOf [role] (roles.map fun p => role.gauge 1 [p.1, p.2]) :=
    SeriesOf.of_label role "rolname" (fun _ _ => rfl) (fun v _ => label?_rolname v.1 v.2) hroles
  rw [Task.emitted_emitAll_bind]
  exact hrole.append (SeriesOf.single count _ []) (by decide +kernel)

end Superusers

/-! ## Extensions -/

namespace Extensions

theorem label?_extname (database name version : String) :
    (info.gauge 1 [database, name, version]).label? "extname" = some name := by
  change (Dictionary.insert (.insert (.insert .empty "datname" database) "extname" name)
    "extversion" version).get? "extname" = _
  rw [Dictionary.get?_insert, if_neg (by decide), Dictionary.get?_insert, if_pos rfl]

/-- An extension is known under its name once, whichever databases have it. -/
theorem samples_series (known : Known) : SeriesOf [info] (samples known) :=
  SeriesOf.of_label info "extname" (fun _ _ => rfl)
    (fun v _ => label?_extname v.2.1 v.1 v.2.2) known.keys_nodup

theorem update_series (settings : Settings) (ctx : ContextId) (b : Bench σ τ) :
    SeriesOf [databasesDiscovered, databasesScanned, info] (update settings ctx b).2.1 := by
  refine Task.emits_bind (SeriesOf.nil _) rfl fun rows after _ => ?_
  refine Task.emits_bind (SeriesOf.nil _) rfl fun eligible after _ => ?_
  rw [Task.emitted_emit_bind]
  refine SeriesOf.cons ?_ databasesDiscovered _ [] (by decide +kernel)
  split
  · exact (SeriesOf.nil [info]).cons databasesScanned 0 [] (by decide +kernel)
  · refine Task.emits_bind (SeriesOf.nil _) rfl fun targets after _ => ?_
    rw [Task.emitted_emit_bind]
    refine SeriesOf.cons ?_ databasesScanned _ [] (by decide +kernel)
    exact Task.emits_bind (SeriesOf.nil _) rfl fun known after _ => samples_series known

end Extensions

end PgVitals

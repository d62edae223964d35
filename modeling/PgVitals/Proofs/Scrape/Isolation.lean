import PgVitals.Proofs.Target.Sessions
import PgVitals.Scrape.Run

/-!
# What one collector does to the others

A run of collectors is a relay: each collector has one turn, in the order of the list, on the site
that the one before left.  How a collector ends, well, with a fault or by crashing, decides its own
verdict and the sample that tells its success, and nothing else: the sink grows by what each emitted
and by the two samples of its verdict.  A scrape has the same samples as the run, and fails only
when no target could be set up; then no collector had a turn.
-/

namespace PgVitals

variable {σ τ : Type}

/-! ## Turns -/

/-- The turn of one collector. -/
structure Turn (σ τ : Type) where
  name : String
  before : Site σ τ
  outcome : Outcome Unit
  samples : List Sample
  after : Site σ τ

namespace Turn

/-- How many milliseconds the turn took. -/
def elapsed (t : Turn σ τ) : Nat := Scraper.timeOf t.after - Scraper.timeOf t.before

/-- What the sink holds for the turn: the samples emitted, then whether it succeeded and how long it
took. -/
def output (t : Turn σ τ) : List Sample :=
  t.samples ++
    [Verdict.successMetric.gauge (if t.outcome = .done () then 1 else 0) [t.name],
      Verdict.durationMetric.gauge (Verdict.seconds t.elapsed) [t.name]]

end Turn

/-- Collectors in a relay: one turn for each, in order, on the site that the turn before left. -/
inductive Relay (ctx : ContextId) :
    List (String × Collector σ τ) → Site σ τ → List (Turn σ τ) → Site σ τ → Prop where
  | nil (site : Site σ τ) : Relay ctx [] site [] site
  | cons {name : String} {collector collector' : Collector σ τ}
      {rest : List (String × Collector σ τ)} {site after last : Site σ τ} {outcome : Outcome Unit}
      {samples : List Sample} {turns : List (Turn σ τ)}
      (run : collector.run ctx site = (outcome, samples, collector', after))
      (more : Relay ctx rest after turns last) :
      Relay ctx ((name, collector) :: rest) site (⟨name, site, outcome, samples, after⟩ :: turns)
        last

theorem Relay.map_name {ctx : ContextId} {collectors : List (String × Collector σ τ)}
    {site last : Site σ τ} {turns : List (Turn σ τ)} (h : Relay ctx collectors site turns last) :
    turns.map Turn.name = collectors.map Prod.fst := by
  induction h with
  | nil site => rfl
  | cons run more ih => rw [List.map_cons, List.map_cons, ih]

/-- Each turn is a run of the collector of its name. -/
theorem Relay.exists_run {ctx : ContextId} {collectors : List (String × Collector σ τ)}
    {site last : Site σ τ} {turns : List (Turn σ τ)} (h : Relay ctx collectors site turns last)
    {turn : Turn σ τ} (hturn : turn ∈ turns) :
    ∃ collector collector', (turn.name, collector) ∈ collectors ∧
      collector.run ctx turn.before = (turn.outcome, turn.samples, collector', turn.after) := by
  induction h with
  | nil site => cases hturn
  | @cons name collector collector' rest _ _ _ _ _ _ run more ih =>
    obtain rfl | hturn := List.mem_cons.1 hturn
    · exact ⟨collector, collector', List.mem_cons_self, run⟩
    · obtain ⟨other, other', hmem, hrun⟩ := ih hturn
      exact ⟨other, other', List.mem_cons_of_mem _ hmem, hrun⟩

/-- What every collector keeps holds at the start of every turn and at the end. -/
theorem Relay.keeps {I : Site σ τ → Prop} {ctx : ContextId}
    {collectors : List (String × Collector σ τ)} {site last : Site σ τ} {turns : List (Turn σ τ)}
    (h : Relay ctx collectors site turns last)
    (hrun : ∀ p ∈ collectors, ∀ site, I site → I (p.2.run ctx site).2.2.2) (hsite : I site) :
    (∀ turn ∈ turns, I turn.before) ∧ I last := by
  induction h with
  | nil site => exact ⟨List.forall_mem_nil _, hsite⟩
  | @cons name collector _ rest site after last _ _ turns run more ih =>
    obtain ⟨hcollector, hrest⟩ := List.forall_mem_cons.1 hrun
    have hafter := hcollector site hsite
    rw [run] at hafter
    obtain ⟨hturns, hlast⟩ := ih hrest hafter
    exact ⟨List.forall_mem_cons.2 ⟨hsite, hturns⟩, hlast⟩

/-! ## Verdicts -/

namespace Verdict

/-- The verdict says how a turn ended: that there is no data only if the collector said so, and what
went wrong for every other fault and for a crash. -/
structure Tells (v : Verdict) (t : Turn σ τ) : Prop where
  name_eq : v.name = t.name
  duration_eq : v.duration = t.elapsed
  success_iff : v.success = true ↔ t.outcome = .done ()
  noData_iff : v.noData = true ∧ v.error = none ↔ t.outcome = .failed .noData
  error_of_done : t.outcome = .done () → v.error = none
  error_of_failed : ∀ fault, t.outcome = .failed fault → fault ≠ .noData →
    v.error = some fault.message
  error_of_crashed : ∀ note, t.outcome = .crashed note → v.error = some (crashFault note).message

theorem isNoData_iff {fault : Fault} : fault.isNoData = true ↔ fault = .noData := by
  cases fault <;> simp [Fault.isNoData]

theorem isNoData_crashFault (note : Option String) : (crashFault note).isNoData = false := by
  cases note <;> rfl

theorem tells_ofOutcome (t : Turn σ τ) : (ofOutcome t.name t.elapsed t.outcome).Tells t := by
  obtain ⟨name, before, outcome, samples, after⟩ := t
  cases outcome with
  | done value => constructor <;> simp [ofOutcome]
  | failed fault =>
    by_cases h : fault = .noData
    · subst h
      constructor <;> simp [ofOutcome, ofFault, Fault.isNoData]
    · have hfault : fault.isNoData = false := by
        rw [← Bool.not_eq_true, isNoData_iff]
        exact h
      constructor <;> simp [ofOutcome, ofFault, hfault, h]
  | crashed note => constructor <;> simp [ofOutcome, ofFault, isNoData_crashFault]

theorem samples_ofOutcome (t : Turn σ τ) :
    t.samples ++ (ofOutcome t.name t.elapsed t.outcome).samples = t.output := by
  obtain ⟨name, before, outcome, samples, after⟩ := t
  cases outcome with
  | done value => rfl
  | failed fault => rfl
  | crashed note => rfl

end Verdict

/-! ## Runs -/

namespace Scraper

/-- Turn after turn, what is there is kept and what the rest of the run gathers is added. -/
theorem foldl_advance (ctx : ContextId) (collectors : List (String × Collector σ τ))
    (g : Gathered σ τ) :
    collectors.foldl (advance ctx) g =
      ⟨g.verdicts ++ (gather ctx collectors [] g.site).verdicts,
        g.samples ++ (gather ctx collectors [] g.site).samples,
        g.collectors ++ (gather ctx collectors [] g.site).collectors,
        (gather ctx collectors [] g.site).site⟩ := by
  -- `gather` is a run too, from nothing, so the induction hypothesis is used on both sides.
  induction collectors generalizing g with
  | nil => simp only [List.foldl_nil, gather, List.append_nil]
  | cons entry rest ih =>
    rw [gather, List.foldl_cons, List.foldl_cons, ih,
      ih (advance ctx ⟨[], [], [], g.site⟩ entry)]
    simp only [advance, List.nil_append, List.append_assoc]

/-- The run from an empty sink, by recursion: the first turn, and the run of the rest behind it. -/
theorem gather_cons (ctx : ContextId) (name : String) (collector : Collector σ τ)
    (rest : List (String × Collector σ τ)) (site : Site σ τ) :
    gather ctx ((name, collector) :: rest) [] site =
      let (outcome, samples, collector, after) := collector.run ctx site
      let verdict := Verdict.ofOutcome name (timeOf after - timeOf site) outcome
      let more := gather ctx rest [] after
      ⟨verdict :: more.verdicts, samples ++ verdict.samples ++ more.samples,
        (name, collector) :: more.collectors, more.site⟩ := by
  rw [gather, List.foldl_cons, foldl_advance]
  simp only [advance, List.nil_append, List.singleton_append]

theorem relay_gather (ctx : ContextId) (collectors : List (String × Collector σ τ))
    (site : Site σ τ) :
    ∃ turns, Relay ctx collectors site turns (gather ctx collectors [] site).site ∧
      List.Forall₂ Verdict.Tells (gather ctx collectors [] site).verdicts turns ∧
      (gather ctx collectors [] site).samples = turns.flatMap Turn.output := by
  induction collectors generalizing site with
  | nil => exact ⟨[], .nil site, .nil, rfl⟩
  | cons entry rest ih =>
    obtain ⟨name, collector⟩ := entry
    rcases hrun : collector.run ctx site with ⟨outcome, samples, collector', after⟩
    obtain ⟨turns, hrelay, hverdicts, hsamples⟩ := ih after
    let turn : Turn σ τ := ⟨name, site, outcome, samples, after⟩
    refine ⟨turn :: turns, ?_, ?_, ?_⟩
    · simp only [gather_cons, hrun]
      exact .cons hrun hrelay
    · simp only [gather_cons, hrun]
      exact .cons (Verdict.tells_ofOutcome turn) hverdicts
    · simp only [gather_cons, hrun]
      rw [hsamples, List.flatMap_cons, ← Verdict.samples_ofOutcome]
      rfl

/-! ## Scrapes -/

theorem release_not_failed (site : Site σ τ) :
    (Target.release site).1 = .done () ∨ ∃ note, (Target.release site).1 = .crashed note := by
  rw [Target.release_eq]
  cases (Target.close site).1 with
  | done value => exact Or.inl rfl
  | failed fault => exact Or.inl rfl
  | crashed note => exact Or.inr ⟨note, rfl⟩

/-- **Collectors do not touch each other's output.**  Every collector has one turn, in order, and
the sink holds what it held, followed for each turn by the samples emitted and the two of the
verdict; the report holds a verdict for each turn.  A scrape emits the samples of the run on the
target that was set up.  It fails only if none could be, and then neither the scraper nor the sink
has changed and the world is as the attempt left it. -/
theorem scrape_isolates (s : Scraper σ τ) (ctx : ContextId) :
    (∀ (site : Site σ τ) (sink : List Sample),
      let looped := s.collectors.foldl (advance ctx) ⟨[], sink, [], site⟩
      ∃ turns, Relay ctx s.collectors site turns (s.runOn ctx site).2.2.2 ∧
        turns.map Turn.name = s.names ∧
        List.Forall₂ Verdict.Tells (s.runOn ctx site).1.verdicts turns ∧
        looped.verdicts = (s.runOn ctx site).1.verdicts ∧
        looped.samples = sink ++ (s.runOn ctx site).2.1 ∧
        looped.samples = sink ++ turns.flatMap Turn.output) ∧
    ∀ scene, match Target.openCopy s.template ctx scene with
      | (.done target, after) =>
        (s.scrape ctx scene).2.1 = (s.runOn ctx ⟨target, after⟩).2.1 ∧
          ((∃ duration, (s.scrape ctx scene).1 =
              .done ⟨(s.runOn ctx ⟨target, after⟩).1.verdicts, duration⟩) ∨
            ∃ note, (s.scrape ctx scene).1 = .crashed note)
      | (.failed fault, after) => s.scrape ctx scene = (.failed fault, [], s, after)
      | (.crashed note, after) => s.scrape ctx scene = (.crashed note, [], s, after) := by
  constructor
  · intro site sink
    obtain ⟨turns, hrelay, hverdicts, hsamples⟩ := relay_gather ctx s.collectors site
    refine ⟨turns, hrelay, hrelay.map_name, hverdicts, ?_, ?_, ?_⟩ <;> rw [foldl_advance]
    · exact List.nil_append _
    · rfl
    · exact congrArg (sink ++ ·) hsamples
  · intro scene
    rcases hopen : Target.openCopy s.template ctx scene with ⟨target | fault | note, after⟩
    · refine ⟨by simp only [scrape, hopen], ?_⟩
      simp only [scrape, hopen]
      -- The samples were handed over before the release, whatever the release does.
      obtain hdone | ⟨note, hcrash⟩ := release_not_failed (s.runOn ctx ⟨target, after⟩).2.2.2
      · rw [hdone]
        exact Or.inl ⟨_, rfl⟩
      · rw [hcrash]
        exact Or.inr ⟨note, rfl⟩
    · simp only [scrape, hopen]
    · simp only [scrape, hopen]

/-! ## The turns of a scrape -/

/-- The turns that collectors have in a scrape: one for each of them if a target could be set up. -/
inductive Turns (s : Scraper σ τ) (ctx : ContextId) (scene : Scene σ) : List (Turn σ τ) → Prop where
  | setUp {t : Target σ τ} {after : Scene σ} {last : Site σ τ} {turns : List (Turn σ τ)}
    (hopen : Target.openCopy s.template ctx scene = (.done t, after))
    (relay : Relay ctx s.collectors ⟨t, after⟩ turns last) : Turns s ctx scene turns
  | notSetUp (hopen : (Target.openCopy s.template ctx scene).1.isDone = false) :
    Turns s ctx scene []

theorem exists_turns (s : Scraper σ τ) (ctx : ContextId) (scene : Scene σ) :
    ∃ turns, s.Turns ctx scene turns ∧ (s.scrape ctx scene).2.1 = turns.flatMap Turn.output := by
  rcases hopen : Target.openCopy s.template ctx scene with ⟨t | fault | note, after⟩
  · obtain ⟨turns, hrelay, -, hsamples⟩ := relay_gather ctx s.collectors ⟨t, after⟩
    refine ⟨turns, .setUp hopen hrelay, ?_⟩
    simp only [scrape, hopen]
    exact hsamples
  · refine ⟨[], .notSetUp (by rw [hopen]; rfl), ?_⟩
    simp only [scrape, hopen, List.flatMap_nil]
  · refine ⟨[], .notSetUp (by rw [hopen]; rfl), ?_⟩
    simp only [scrape, hopen, List.flatMap_nil]

theorem Turns.of_done {s : Scraper σ τ} {ctx : ContextId} {scene after : Scene σ} {t : Target σ τ}
    {turns : List (Turn σ τ)} (h : s.Turns ctx scene turns)
    (hopen : Target.openCopy s.template ctx scene = (.done t, after)) :
    ∃ last, Relay ctx s.collectors ⟨t, after⟩ turns last := by
  cases h with
  | setUp hran relay =>
    rw [hopen] at hran
    cases hran
    exact ⟨_, relay⟩
  | notSetUp hran =>
    rw [hopen] at hran
    cases hran

theorem Turns.of_not_done {s : Scraper σ τ} {ctx : ContextId} {scene : Scene σ}
    {turns : List (Turn σ τ)} (h : s.Turns ctx scene turns)
    (hopen : (Target.openCopy s.template ctx scene).1.isDone = false) : turns = [] := by
  cases h with
  | setUp hran relay =>
    rw [hran] at hopen
    cases hopen
  | notSetUp hran => rfl

end Scraper

end PgVitals

import PgVitals.Proofs.Collector.Builtin
import PgVitals.Proofs.Collector.Series
import PgVitals.Proofs.Scrape.Discipline

/-!
# A scrape emits no series twice

The names of metrics tell the collectors apart, and the samples of verdicts carry the names of the
collectors, which are distinct.  So every series of a scrape belongs to one turn, and within a turn
no series is emitted twice, as long as the server lists each superuser role at most once.
-/

namespace PgVitals

variable {σ τ : Type}

/-- If this is an answer to a question for superusers, it lists each role at most once. -/
def Event.ListsRolesOnce : Event → Prop
  | .query _ sql (.done rows) =>
    sql = Superusers.directStatement ∨ sql = Superusers.grantedStatement →
      (Superusers.roleNames rows).Nodup
  | _ => True

-- The answer is looked at before the statement, which is long.
instance : DecidablePred Event.ListsRolesOnce
  | .query _ _ (.done _) => decidable_of_iff' _ imp_iff_or_not
  | .query _ _ (.failed _) => .isTrue trivial
  | .query _ _ (.crashed _) => .isTrue trivial
  | .connect _ _ => .isTrue trivial
  | .close _ _ => .isTrue trivial

/-- Every answer to a question for superusers lists each role at most once. -/
def ListsRolesOnce (record : List Event) : Prop := ∀ e ∈ record, e.ListsRolesOnce

instance : DecidablePred ListsRolesOnce := fun record =>
  inferInstanceAs (Decidable (∀ e ∈ record, e.ListsRolesOnce))

theorem ListsRolesOnce.of_prefix {record events : List Event} (h : ListsRolesOnce record)
    (hbegins : events <+: record) : ListsRolesOnce events :=
  fun e he => h e (hbegins.subset he)

/-! ## To whom a series belongs -/

/-- The metrics that each collector of the program declares. -/
def declared : List (String × List Metric) :=
  [(Extensions.subsystem,
      [Extensions.databasesDiscovered, Extensions.databasesScanned, Extensions.info]),
    (Superusers.subsystem, [Superusers.role, Superusers.count]),
    (Transactions.subsystem, [Transactions.count, Transactions.oldest]),
    (StandbySlots.subsystem, [StandbySlots.invalid]), (BuildTimes.subsystem, BuildTimes.metrics)]

theorem declared_apart : ∀ p ∈ declared, ∀ p' ∈ declared, ∀ m ∈ p.2, ∀ m' ∈ p'.2,
    m.fullName = m'.fullName → p.1 = p'.1 := by
  decide +kernel

theorem declared_ne_verdict : ∀ p ∈ declared, ∀ m ∈ p.2,
    m.fullName ≠ Verdict.successMetric.fullName ∧ m.fullName ≠ Verdict.durationMetric.fullName := by
  decide +kernel

/-- The series is of a metric that the collector declares, or of its verdict. -/
def Owns (name : String) (series : String × Dictionary String) : Prop :=
  (∃ metrics, (name, metrics) ∈ declared ∧ ∃ m ∈ metrics, series.1 = m.fullName) ∨
    (series.1 = Verdict.successMetric.fullName ∨ series.1 = Verdict.durationMetric.fullName) ∧
      series.2.get? "collector" = some name

/-- A series belongs to one collector at most. -/
theorem Owns.unique {name name' : String} {series : String × Dictionary String}
    (h : Owns name series) (h' : Owns name' series) : name = name' := by
  have hapart : ∀ {other : String}, (∃ metrics, (other, metrics) ∈ declared ∧
      ∃ m ∈ metrics, series.1 = m.fullName) →
      ¬(series.1 = Verdict.successMetric.fullName ∨
        series.1 = Verdict.durationMetric.fullName) := by
    rintro other ⟨metrics, hmetrics, m, hm, hname⟩
    obtain ⟨hsuccess, hduration⟩ := declared_ne_verdict _ hmetrics m hm
    rw [hname]
    exact not_or.2 ⟨hsuccess, hduration⟩
  -- The name of the metric tells whose a declared one is, the label tells whose verdict it is.
  obtain hdeclares | ⟨hverdict, hlabel⟩ := h <;> obtain hdeclares' | ⟨hverdict', hlabel'⟩ := h'
  · obtain ⟨metrics, hmetrics, m, hm, hname⟩ := hdeclares
    obtain ⟨metrics', hmetrics', m', hm', hname'⟩ := hdeclares'
    exact declared_apart _ hmetrics _ hmetrics' m hm m' hm' (hname.symm.trans hname')
  · exact absurd hverdict' (hapart hdeclares)
  · exact absurd hverdict (hapart hdeclares')
  · exact Option.some.inj (hlabel.symm.trans hlabel')

/-! ## One turn -/

section

variable {c : Connector σ τ} {ctx : ContextId}

/-- When the server lists roles once, the superusers of an answer to the collector are distinct. -/
theorem Superusers.roleNames_nodup {settings : Settings} {b : Bench (Audited σ) (Traced τ)}
    (hconnector : b.target.connector = c.audited)
    (hroles : ListsRolesOnce (update settings ctx b).2.2.record) {rows : List Row}
    (h : (Target.query ctx (statement b.target.version) b.toSite).1 = .done rows) :
    (roleNames rows).Nodup := by
  obtain ⟨-, ⟨-, detail, hfailed⟩ | ⟨origin, hrecord⟩⟩ :=
    Target.query_spec hconnector ctx (statement b.target.version)
  · rw [h] at hfailed
    cases hfailed
  · rw [update_site, hrecord, h] at hroles
    have hanswer : (Event.query origin (statement b.target.version) (.done rows)).ListsRolesOnce :=
      hroles _ (List.mem_append_right _ (List.mem_singleton_self _))
    refine hanswer ?_
    unfold statement
    split
    · exact .inr rfl
    · exact .inl rfl

theorem Catalogue.run_series {draws : Draws} {settings : Settings}
    {made : List (String × Collector (Audited σ) (Traced τ))}
    (h : (builtin draws).instantiate settings = .ok made) {name : String}
    {collector : Collector (Audited σ) (Traced τ)} (hmem : (name, collector) ∈ made)
    {site : Site (Audited σ) (Traced τ)} (hconnector : site.target.connector = c.audited)
    (hroles : ListsRolesOnce (collector.run ctx site).2.2.2.record) :
    ∃ metrics, (name, metrics) ∈ declared ∧ SeriesOf metrics (collector.run ctx site).2.1 := by
  obtain ⟨e, he, hname, hmake⟩ := exists_entry_of_mem h hmem
  obtain rfl : e.name = name := hname
  simp only [builtin, List.mem_cons, List.not_mem_nil, or_false] at he
  obtain rfl | rfl | rfl | rfl | rfl := he <;> obtain rfl := Except.ok.inj hmake
  · exact ⟨_, List.mem_of_getElem? (i := 0) rfl, Extensions.update_series settings ctx _⟩
  · refine ⟨_, List.mem_of_getElem? (i := 1) rfl, Superusers.update_series settings ctx _ ?_⟩
    exact fun rows hrows => Superusers.roleNames_nodup hconnector hroles hrows
  · exact ⟨_, List.mem_of_getElem? (i := 2) rfl, Transactions.update_series ctx _⟩
  · exact ⟨_, List.mem_of_getElem? (i := 3) rfl, StandbySlots.update_series ctx _⟩
  · exact ⟨_, List.mem_of_getElem? (i := 4) rfl, BuildTimes.update_series _⟩

theorem label?_collector (m : Metric) (hm : m.labels = ["collector"]) (value : Float)
    (name : String) : (m.gauge value [name]).label? "collector" = some name := by
  have hlabels : (m.gauge value [name]).labels = .insert .empty "collector" name := by
    rw [Metric.gauge, hm]
    rfl
  rw [Sample.label?, hlabels, Dictionary.get?_insert, if_pos rfl]

/-- What a turn puts into the sink is of different series, all of them its own. -/
theorem Turn.output_series {turn : Turn σ τ} {metrics : List Metric}
    (hmetrics : (turn.name, metrics) ∈ declared) (h : SeriesOf metrics turn.samples) :
    (turn.output.map Sample.series).Nodup ∧ ∀ s ∈ turn.output, Owns turn.name s.series := by
  have hverdict : SeriesOf [Verdict.successMetric, Verdict.durationMetric]
      [Verdict.successMetric.gauge (if turn.outcome = .done () then 1 else 0) [turn.name],
        Verdict.durationMetric.gauge (Verdict.seconds turn.elapsed) [turn.name]] :=
    (SeriesOf.single Verdict.durationMetric _ _).cons Verdict.successMetric _ _ (by decide +kernel)
  have hnames : ∀ m ∈ metrics, ∀ m' ∈ [Verdict.successMetric, Verdict.durationMetric],
      m.fullName ≠ m'.fullName := by
    intro m hm m' hm'
    obtain ⟨hsuccess, hduration⟩ := declared_ne_verdict _ hmetrics m hm
    obtain rfl | hm' := List.mem_cons.1 hm'
    · exact hsuccess
    · rw [List.mem_singleton.1 hm']
      exact hduration
  refine ⟨(h.append hverdict hnames).nodup, fun s hs => ?_⟩
  obtain hs | hs := List.mem_append.1 hs
  · obtain ⟨m, hm, hname⟩ := h.named s hs
    exact .inl ⟨metrics, hmetrics, m, hm, hname⟩
  · have hsuccess := label?_collector Verdict.successMetric rfl
      (if turn.outcome = .done () then 1 else 0) turn.name
    have hduration := label?_collector Verdict.durationMetric rfl
      (Verdict.seconds turn.elapsed) turn.name
    obtain rfl | hs := List.mem_cons.1 hs
    · exact .inr ⟨.inl rfl, hsuccess⟩
    · rw [List.mem_singleton.1 hs]
      exact .inr ⟨.inr rfl, hduration⟩

/-! ## All turns -/

/-- Turns under distinct names whose samples are their own have no series in common. -/
theorem nodup_series_of_owned {turns : List (Turn σ τ)} (hnames : (turns.map Turn.name).Nodup)
    (h : ∀ turn ∈ turns, (turn.output.map Sample.series).Nodup ∧
      ∀ s ∈ turn.output, Owns turn.name s.series) :
    ((turns.flatMap Turn.output).map Sample.series).Nodup := by
  rw [List.map_flatMap]
  refine List.nodup_flatMap.2 ⟨fun turn hturn => (h turn hturn).1, ?_⟩
  refine (List.pairwise_map.1 hnames).imp_of_mem fun {turn turn'} hturn hturn' hne => ?_
  intro series hseries hseries'
  obtain ⟨s, hs, rfl⟩ := List.mem_map.1 hseries
  obtain ⟨s', hs', hsame⟩ := List.mem_map.1 hseries'
  have howns := (h turn' hturn').2 s' hs'
  rw [hsame] at howns
  exact hne (((h turn hturn).2 s hs).unique howns)

/-- A collector adds to the record and keeps the connector. -/
theorem Collector.run_extends {collector : Collector (Audited σ) (Traced τ)}
    (h : collector.Matches collector) (ctx : ContextId) {site : Site (Audited σ) (Traced τ)}
    (hconnector : site.target.connector = c.audited) :
    (collector.run ctx site).2.2.2.target.connector = c.audited ∧
      site.record <+: (collector.run ctx site).2.2.2.record := by
  refine (h.update ctx).keeps (I := fun s => s.target.connector = c.audited ∧
    site.record <+: s.record) ?_
    (fun databases known => Extensions.scanAll_keeps_of ?_ databases known)
    { site with draws := collector.draws } ⟨hconnector, List.prefix_rfl⟩
  · rintro sql - s ⟨hs, hbegins⟩
    obtain ⟨htarget, ⟨hrecord, -⟩ | ⟨origin, hrecord⟩⟩ := Target.query_spec hs ctx sql
    · exact ⟨by rw [htarget, hs], by rw [hrecord]; exact hbegins⟩
    · exact ⟨by rw [htarget, hs], by rw [hrecord]; exact hbegins.trans (List.prefix_append _ _)⟩
  · rintro database s ⟨hs, hbegins⟩
    obtain ⟨v, -, -, htarget, hrecord, -⟩ := Extensions.scan_spec hs ctx database
    exact ⟨by rw [htarget, hs], by rw [hrecord]; exact hbegins.trans (List.prefix_append _ _)⟩

/-- In a relay the record grows from turn to turn. -/
theorem Relay.extends {collectors : List (String × Collector (Audited σ) (Traced τ))}
    {site last : Site (Audited σ) (Traced τ)} {turns : List (Turn (Audited σ) (Traced τ))}
    (h : Relay ctx collectors site turns last) (hcollectors : ∀ p ∈ collectors, p.2.Matches p.2)
    (hconnector : site.target.connector = c.audited) :
    (last.target.connector = c.audited ∧ site.record <+: last.record) ∧ ∀ turn ∈ turns,
      turn.before.target.connector = c.audited ∧ turn.after.record <+: last.record := by
  induction h with
  | nil site => exact ⟨⟨hconnector, List.prefix_rfl⟩, List.forall_mem_nil _⟩
  | @cons name collector collector' rest site after last _ _ turns run more ih =>
    obtain ⟨hcollector, hrest⟩ := List.forall_mem_cons.1 hcollectors
    obtain ⟨hafter, hbegins⟩ := Collector.run_extends hcollector ctx hconnector
    rw [run] at hafter hbegins
    obtain ⟨⟨hlast, hmore⟩, hturns⟩ := ih hrest hafter
    exact ⟨⟨hlast, hbegins.trans hmore⟩,
      List.forall_mem_cons.2 ⟨⟨hconnector, hmore⟩, hturns⟩⟩

/-- A release adds to the record. -/
theorem Target.release_extends {site : Site (Audited σ) (Traced τ)}
    (hconnector : site.target.connector = c.audited) : site.record <+: (release site).2.record := by
  rcases hhold : site.target.hold with _ | ⟨traced⟩ | ⟨traced⟩
  · have hrecord : (release site).2.record = site.record := by
      rw [Site.record, scene_release_of_not_held hhold, Site.record]
    exact ⟨[], by rw [hrecord, List.append_nil]⟩
  · obtain ⟨closing, after, hclose, -, hrecord⟩ := close_sends hconnector hhold
    rw [release_eq, hclose, hrecord]
    exact List.prefix_append _ _
  · have howns : site.target.ownsSession = false := by rw [ownsSession, hhold]
    rw [release_eq, close_of_not_owned howns]
    exact List.prefix_rfl

end

/-! ## Scrapes -/

namespace Scraper

variable {c : Connector σ τ}

/-- The series of a scrape under audit by collectors of the program are distinct. -/
theorem nodup_series_of_instantiate {draws : Draws} {settings : Settings}
    {s : Scraper (Audited σ) (Traced τ)} (hconnector : s.template.connector = c.audited)
    (hmade : (Catalogue.builtin draws).instantiate settings = .ok s.collectors) (ctx : ContextId)
    (scene : Scene (Audited σ)) (hroles : ListsRolesOnce (s.scrape ctx scene).2.2.2.server.record) :
    ((s.scrape ctx scene).2.1.map Sample.series).Nodup := by
  have hmatches := Catalogue.matches_of_instantiate hmade
  rcases hcopy : Target.openCopy s.template ctx scene with ⟨outcome, after⟩
  cases hdone : outcome.isDone with
  | false =>
    obtain ⟨-, hnone, -⟩ := scrape_of_not_done hdone hcopy
    rw [hnone]
    exact List.nodup_nil
  | true =>
    obtain ⟨t, rfl⟩ := Outcome.exists_of_isDone hdone
    obtain ⟨calls, hopening⟩ := Target.openCopy_isOpening hconnector ctx scene
    have hopened : t.connector = c.audited := (hopening.setUpOn t (by rw [hcopy])).connector_eq
    obtain ⟨hemitted, hfinal⟩ := scrape_of_done hcopy
    obtain ⟨turns, hrelay, -, hsamples⟩ := relay_gather ctx s.collectors ⟨t, after⟩
    obtain ⟨⟨hlast, -⟩, hturns⟩ := hrelay.extends hmatches hopened
    -- The record only grows, so what each collector was answered is in the record at the end.
    have hran : ListsRolesOnce (gather ctx s.collectors [] ⟨t, after⟩).site.record := by
      rw [hfinal] at hroles
      exact hroles.of_prefix (Target.release_extends hlast)
    have hnames : (turns.map Turn.name).Nodup := by
      rw [hrelay.map_name]
      exact (Catalogue.names_sublist hmade).nodup (Catalogue.builtin_nodup draws)
    have howned : ∀ turn ∈ turns, (turn.output.map Sample.series).Nodup ∧
        ∀ sample ∈ turn.output, Owns turn.name sample.series := by
      intro turn hturn
      obtain ⟨hbefore, hbegins⟩ := hturns turn hturn
      obtain ⟨collector, collector', hmem, hrun⟩ := hrelay.exists_run hturn
      have hturn_roles : ListsRolesOnce (collector.run ctx turn.before).2.2.2.record := by
        rw [hrun]
        exact hran.of_prefix hbegins
      obtain ⟨metrics, hmetrics, hseries⟩ := Catalogue.run_series hmade hmem hbefore hturn_roles
      rw [hrun] at hseries
      exact Turn.output_series hmetrics hseries
    have houtput : (s.scrape ctx scene).2.1 = turns.flatMap Turn.output := hemitted.trans hsamples
    rw [houtput]
    exact nodup_series_of_owned hnames howned

/-- **No series twice.**  Whatever is configured and whatever the server does, as long as its
answers to the questions for superusers list each role at most once, no two samples of a scrape
agree in the name and in all labels. -/
theorem scrape_nodup_series {draws : Draws} {settings : Settings} {template : Target σ τ}
    {scraper : Scraper σ τ}
    (h : ofCatalogue (Catalogue.builtin draws) settings template = .ok scraper) (ctx : ContextId)
    (scene : Scene σ) :
    ∃ audited, ofCatalogue (Catalogue.builtin draws) settings template.audited = .ok audited ∧
      let ran := scraper.scrape ctx scene
      let recorded := audited.scrape ctx (scene.withRecord [])
      (recorded.1 = ran.1 ∧ recorded.2.1 = ran.2.1 ∧ recorded.2.2.2.Audits ran.2.2.2) ∧
      (ListsRolesOnce recorded.2.2.2.server.record → (ran.2.1.map Sample.series).Nodup) := by
  obtain ⟨audited, hmade, hsound⟩ := ofCatalogue_sound h
  have hsettled : (scene.withRecord []).Settled scene := ⟨Accounts.nil, rfl⟩
  obtain ⟨hended, hsamples, -, -, haudits⟩ := scrape_sound hsound ctx hsettled
  obtain ⟨made, hinstantiate, rfl⟩ := made_of_ofCatalogue hmade
  refine ⟨_, hmade, ⟨hended, hsamples, haudits⟩, fun hroles => ?_⟩
  have hconnector := hsound.template.connector_eq
  have hdistinct := nodup_series_of_instantiate hconnector hinstantiate ctx _ hroles
  rw [hsamples] at hdistinct
  exact hdistinct

/-- Opens every session and answers every statement with the same two columns. -/
def monotonous : Connector Unit Unit where
  connect := fun _ _ => pure ()
  query := fun _ _ _ => pure [⟨[some "PostgreSQL 16.4", none]⟩]
  close := fun _ => pure ()

/-- The text that answers everything is a database, its extension, and the only superuser. -/
theorem scrape_nodup_series_monotonous :
    let template : Target Unit Unit := .unconfigured monotonous (.keyValue ⟨[⟨"host", "h"⟩]⟩) 0
    ∃ scraper audited,
      ofCatalogue (Catalogue.builtin (.ofWords #[])) {} template = .ok scraper ∧
      ofCatalogue (Catalogue.builtin (.ofWords #[])) {} template.audited = .ok audited ∧
      ListsRolesOnce (audited.scrape 0 ((Scene.around () 0).withRecord [])).2.2.2.server.record ∧
      (scraper.scrape 0 (Scene.around () 0)).2.1.length = 11 ∧
      ((scraper.scrape 0 (Scene.around () 0)).2.1.map Sample.series).Nodup := by
  intro template
  obtain ⟨scraper, hscraper, hlength⟩ : ∃ scraper,
      ofCatalogue (Catalogue.builtin (.ofWords #[])) {} template = .ok scraper ∧
      (scraper.scrape 0 (Scene.around () 0)).2.1.length = 11 := ⟨_, rfl, by decide +kernel⟩
  obtain ⟨made, hmade, hroles⟩ : ∃ made,
      ofCatalogue (Catalogue.builtin (.ofWords #[])) {} template.audited = .ok made ∧
      ListsRolesOnce (made.scrape 0 ((Scene.around () 0).withRecord [])).2.2.2.server.record :=
    ⟨_, rfl, by decide +kernel⟩
  obtain ⟨audited, haudited, -, hdistinct⟩ := scrape_nodup_series hscraper 0 (Scene.around () 0)
  obtain rfl : made = audited := Except.ok.inj (hmade.symm.trans haudited)
  exact ⟨scraper, made, hscraper, hmade, hroles, hlength, hdistinct hroles⟩

end Scraper

end PgVitals

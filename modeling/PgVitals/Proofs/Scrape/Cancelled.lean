import Mathlib.Data.List.Forall2
import PgVitals.Proofs.Collector.Heeding
import PgVitals.Proofs.Scrape.Isolation
import PgVitals.Proofs.Scrape.Release

/-!
# Scrapes whose context ends

Wherever a scrape is when its context ends, nothing more reaches the server but closings.  Setting
up passes the fault of the context on, and so does the collector that is told of the end.  The
collectors after it have their turns and fail with the same fault, save the one that has nothing to
ask.
-/

namespace PgVitals

variable {σ τ ρ : Type} {c : Connector σ τ} {ctx : ContextId} {log : σ → ρ}

/-! ## Turns -/

/-- What a turn makes of the end of its context, on a server of a version: it ends as its calls told
it, and the fault it passes on is that of the cause with which the context has ended.  When the
context had ended before, it stays so, the server logs nothing, nothing is emitted, and the turn
fails with the fault of the context, unless there is nothing to ask. -/
structure Turn.Heeds (c : Connector σ τ) (ctx : ContextId) (log : σ → ρ) (version : ServerVersion)
    (t : Turn (Audited σ) (Traced τ)) : Prop where
  calls : ∃ events, Heeding c ctx t.before.scene events t.outcome t.after.scene
  cause : ∀ fault, t.outcome.cancellation? = some fault →
    ∃ k, t.after.ending? ctx = some k ∧ fault = k.fault
  ended : ∀ k, t.before.ending? ctx = some k →
    t.after.ending? ctx = some k ∧
      log t.after.scene.server.server = log t.before.scene.server.server ∧ t.samples = [] ∧
      t.outcome = if asksNothing t.name version then .done () else .failed k.fault
  silent : t.name = Extensions.subsystem → t.outcome ≠ .done () →
    ∀ s ∈ t.samples, s.name ≠ Extensions.info.fullName

/-- A turn leaves the target as it is. -/
theorem Collector.Heeds.turn (hc : c.Attentive ctx log) {name : String}
    {collector collector' : Collector (Audited σ) (Traced τ)} (h : collector.Heeds c ctx name)
    {site after : Site (Audited σ) (Traced τ)} (hready : Ready c site) {outcome : Outcome Unit}
    {samples : List Sample}
    (hrun : collector.run ctx site = (outcome, samples, collector', after)) :
    after.target = site.target ∧
      Turn.Heeds c ctx log site.target.version ⟨name, site, outcome, samples, after⟩ := by
  let b : Bench (Audited σ) (Traced τ) := { site with draws := collector.draws }
  obtain ⟨rfl, rfl, -, rfl⟩ : (collector.update ctx b).1 = outcome ∧
      (collector.update ctx b).2.1 = samples ∧ _ = collector' ∧
      (collector.update ctx b).2.2.toSite = after := by
    simpa only [Collector.run, Prod.mk.injEq] using hrun
  -- The invariant along the update is that the target is the one before the turn.
  obtain ⟨htarget, events, hheeding⟩ := h.heeds _ hready.holding b rfl
  refine ⟨htarget, ⟨events, hheeding⟩, fun fault hfault => hheeding.cause hc hfault, fun k hk => ?_,
    fun hname => h.silent hname b⟩
  obtain ⟨houtcome, hsamples⟩ := h.ended b k hready hk
  obtain ⟨hstays, hlog, -⟩ := hheeding.trail.of_ended hc hk
  exact ⟨hstays, hlog, hsamples, houtcome⟩

/-- The turns from a site on: each heeds the end of the context, and once the context has ended it
has ended for every turn after that. -/
structure TurnsHeed (c : Connector σ τ) (ctx : ContextId) (log : σ → ρ)
    (site : Site (Audited σ) (Traced τ)) (turns : List (Turn (Audited σ) (Traced τ))) : Prop where
  heeds : ∀ t ∈ turns, t.Heeds c ctx log site.target.version
  ended : ∀ t ∈ turns, ∀ k, site.ending? ctx = some k → t.before.ending? ctx = some k
  stays : turns.Pairwise fun t later =>
    ∀ k, t.after.ending? ctx = some k → later.before.ending? ctx = some k

theorem Relay.heeds (hc : c.Attentive ctx log)
    {collectors : List (String × Collector (Audited σ) (Traced τ))}
    (hcollectors : ∀ p ∈ collectors, p.2.Heeds c ctx p.1)
    {site last : Site (Audited σ) (Traced τ)} {turns : List (Turn (Audited σ) (Traced τ))}
    (h : Relay ctx collectors site turns last) (hready : Ready c site) :
    last.target = site.target ∧ (∃ events, Trail c ctx site.scene events last.scene) ∧
      TurnsHeed c ctx log site turns := by
  induction h with
  | nil site =>
    exact ⟨rfl, ⟨[], .nil _⟩, List.forall_mem_nil _, List.forall_mem_nil _, .nil⟩
  | @cons name collector collector' rest site after last outcome samples turns hrun hmore ih =>
    obtain ⟨hfirst, hrest⟩ := List.forall_mem_cons.1 hcollectors
    obtain ⟨htarget, hturn⟩ := hfirst.turn hc hready hrun
    obtain ⟨hlast, ⟨more, htrail'⟩, hturns, hended, hstays⟩ :=
      ih hrest (hready.congr (by rw [htarget]) (by rw [htarget]))
    obtain ⟨events, htrail, -⟩ := hturn.calls
    rw [htarget] at hlast hturns
    refine ⟨hlast, ⟨events ++ more, htrail.append htrail'⟩,
      List.forall_mem_cons.2 ⟨hturn, hturns⟩, List.forall_mem_cons.2 ⟨fun k hk => hk, ?_⟩,
      List.pairwise_cons.2 ⟨hended, hstays⟩⟩
    intro t ht k hk
    exact hended t ht k (hturn.ended k hk).1

/-! ## Verdicts -/

/-- The verdict on a turn that was told of the end of its context, or came behind it, on a server of
a version. -/
structure Verdict.ReportsEnd (ctx : ContextId) (version : ServerVersion) (v : Verdict)
    (t : Turn (Audited σ) (Traced τ)) : Prop where
  told : ∀ fault, t.outcome.cancellation? = some fault →
    v.success = false ∧ v.error = some fault.message
  ended : ∀ k, t.before.ending? ctx = some k →
    v.success = asksNothing t.name version ∧
      v.error = if asksNothing t.name version then none else some k.fault.message

theorem Verdict.Tells.of_failed {v : Verdict} {t : Turn σ τ} (h : v.Tells t) {fault : Fault}
    (hfailed : t.outcome = .failed fault) (hfault : fault.isCancellation = true) :
    v.success = false ∧ v.error = some fault.message := by
  have hdone : t.outcome ≠ .done () := fun hdone => by cases hfailed.symm.trans hdone
  have hnoData : fault ≠ .noData := by
    rintro rfl
    cases hfault
  exact ⟨Bool.eq_false_iff.2 fun hsuccess => hdone (h.success_iff.1 hsuccess),
    h.error_of_failed fault hfailed hnoData⟩

theorem Turn.Heeds.reportsEnd {version : ServerVersion} {t : Turn (Audited σ) (Traced τ)}
    (h : t.Heeds c ctx log version) {v : Verdict} (hv : v.Tells t) :
    v.ReportsEnd ctx version t where
  told := by
    intro fault htold
    obtain ⟨hfailed, hfault⟩ := Outcome.cancellation?_eq_some_iff.1 htold
    exact hv.of_failed hfailed hfault
  ended := by
    intro k hk
    obtain ⟨-, -, -, houtcome⟩ := h.ended k hk
    cases hasks : asksNothing t.name version with
    | true =>
      rw [hasks] at houtcome
      exact ⟨hv.success_iff.2 houtcome, hv.error_of_done houtcome⟩
    | false =>
      rw [hasks] at houtcome
      exact hv.of_failed houtcome k.isCancellation_fault

/-! ## Scrapes -/

namespace Scraper

/-- A scrape that ran the collectors on a site: every collector had its turn, and the report and the
samples are those of the turns. -/
structure Ran (c : Connector σ τ) (ctx : ContextId) (log : σ → ρ)
    (s : Scraper (Audited σ) (Traced τ)) (site : Site (Audited σ) (Traced τ))
    (outcome : Outcome Report) (samples : List Sample)
    (turns : List (Turn (Audited σ) (Traced τ))) : Prop where
  relay : ∃ last, Relay ctx s.collectors site turns last
  heeds : TurnsHeed c ctx log site turns
  report : ∃ verdicts duration, outcome = .done ⟨verdicts, duration⟩ ∧
    List.Forall₂ (fun v t => v.Tells t ∧ v.ReportsEnd ctx site.target.version t) verdicts turns
  samples_eq : samples = turns.flatMap Turn.output

/-- What a scrape under audit makes of the end of its context.  It is quiet behind the end.  Setting
up ends as its calls told it, and at once when the context had ended before; when it fails, the
scrape does with the same fault and emits nothing.  On a target that is set up every collector has
its turn, and the report and the samples are those of the turns. -/
structure Heeds (c : Connector σ τ) (ctx : ContextId) (log : σ → ρ)
    (s : Scraper (Audited σ) (Traced τ)) (scene : Scene (Audited σ)) : Prop where
  quiet : Quiet c ctx log scene (s.scrape ctx scene).2.2.2
  opening : ∃ events, Heeding c ctx scene events (Target.openCopy s.template ctx scene).1
    (Target.openCopy s.template ctx scene).2
  opening_cause : ∀ fault,
    (Target.openCopy s.template ctx scene).1.cancellation? = some fault →
      ∃ k, (Target.openCopy s.template ctx scene).2.contexts.ending? ctx = some k ∧ fault = k.fault
  opening_ended : ∀ k, scene.contexts.ending? ctx = some k →
    (Target.openCopy s.template ctx scene).1 = .failed k.fault
  given_up : ∀ fault after, Target.openCopy s.template ctx scene = (.failed fault, after) →
    s.scrape ctx scene = (.failed fault, [], s, after)
  opened : ∀ target after, Target.openCopy s.template ctx scene = (.done target, after) →
    ∃ turns, s.Ran c ctx log ⟨target, after⟩ (s.scrape ctx scene).1 (s.scrape ctx scene).2.1 turns

/-- The target is released behind the last turn, which makes no other calls than closings. -/
theorem scrape_of_opened (hc : c.Attentive ctx log) {s : Scraper (Audited σ) (Traced τ)}
    (hcollectors : ∀ p ∈ s.collectors, p.2.Heeds c ctx p.1) {scene after : Scene (Audited σ)}
    {target : Target (Audited σ) (Traced τ)} (hready : Ready c ⟨target, after⟩)
    (h : Target.openCopy s.template ctx scene = (.done target, after)) :
    (∃ events, Trail c ctx after events (s.scrape ctx scene).2.2.2) ∧ ∃ turns,
      s.Ran c ctx log ⟨target, after⟩ (s.scrape ctx scene).1 (s.scrape ctx scene).2.1 turns := by
  obtain ⟨turns, hrelay, hverdicts, hsamples⟩ := relay_gather ctx s.collectors ⟨target, after⟩
  obtain ⟨htarget, ⟨events, htrail⟩, hturns⟩ := hrelay.heeds hc hcollectors hready
  -- The turns leave the target as it was, so what is released is what was opened.
  have hconnector :
      (gather ctx s.collectors [] ⟨target, after⟩).site.target.connector = c.audited := by
    rw [htarget]
    exact hready.connector_eq
  obtain ⟨hreleased, closings, hclosing, -⟩ := Target.release_closes hc _ hconnector
  have hreports : List.Forall₂ (fun v t => v.Tells t ∧ v.ReportsEnd ctx target.version t)
      (gather ctx s.collectors [] ⟨target, after⟩).verdicts turns :=
    List.forall₂_iff_zip.2 ⟨hverdicts.length_eq, fun hmem =>
      have hv := List.forall₂_zip hverdicts hmem
      ⟨hv, (hturns.heeds _ (List.of_mem_zip hmem).2).reportsEnd hv⟩⟩
  simp only [scrape, h, runOn]
  rw [hreleased]
  exact ⟨⟨events ++ closings, htrail.append hclosing⟩, turns, ⟨_, hrelay⟩, hturns,
    ⟨_, _, rfl, hreports⟩, hsamples⟩

theorem heeds (hc : c.Attentive ctx log) {s : Scraper (Audited σ) (Traced τ)}
    (hconnector : s.template.connector = c.audited)
    (hcollectors : ∀ p ∈ s.collectors, p.2.Heeds c ctx p.1) (scene : Scene (Audited σ)) :
    s.Heeds c ctx log scene := by
  obtain ⟨hready, events, hopening⟩ := Target.openCopy_heeds hc hconnector scene
  refine ⟨?_, ⟨events, hopening⟩, fun fault hfault => hopening.cause hc hfault,
    fun k hk => Target.openCopy_of_ended hc hconnector hk, fun fault after hopen => ?_,
    fun target after hopen => ?_⟩
  · rcases hopen : Target.openCopy s.template ctx scene with ⟨target | fault | note, after⟩ <;>
      have htrail := hopening.trail <;> rw [hopen] at htrail
    · obtain ⟨⟨more, htrail'⟩, -⟩ :=
        scrape_of_opened hc hcollectors (hready target after hopen) hopen
      exact (htrail.append htrail').quiet hc
    · simp only [scrape, hopen]
      exact htrail.quiet hc
    · simp only [scrape, hopen]
      exact htrail.quiet hc
  · simp only [scrape, hopen]
  · exact (scrape_of_opened hc hcollectors (hready target after hopen) hopen).2

/-- **Behind the end of its context a scrape is quiet, and it passes the cause on.**  Whatever the
settings are, whatever the server of the script answers and whatever happens to the contexts while a
statement runs: the scrape under audit, which is the scrape itself with a record of its calls, makes
of the end of its context what `Heeds` says. -/
theorem scrape_heeds_cancellation
    {meanwhile : String → ContextId → String → Scene Script → Contexts} {draws : Draws}
    {settings : Settings} {template : Target Script String} {scraper : Scraper Script String}
    (hconnector : template.connector = Script.connectorAmid meanwhile)
    (h : ofCatalogue (Catalogue.builtin draws) settings template = .ok scraper)
    (ctx : ContextId) (scene : Scene Script) :
    ∃ audited, ofCatalogue (Catalogue.builtin draws) settings template.audited = .ok audited ∧
      (audited.scrape ctx (scene.withRecord [])).1 = (scraper.scrape ctx scene).1 ∧
      (audited.scrape ctx (scene.withRecord [])).2.1 = (scraper.scrape ctx scene).2.1 ∧
      (audited.scrape ctx (scene.withRecord [])).2.2.2.Audits (scraper.scrape ctx scene).2.2.2 ∧
      audited.Heeds (Script.connectorAmid meanwhile) ctx Script.log (scene.withRecord []) := by
  obtain ⟨audited, hmade, hsound⟩ := ofCatalogue_sound h
  have hstart : (scene.withRecord []).Settled scene := ⟨Accounts.nil, rfl⟩
  obtain ⟨houtcome, hsamples, -, -, hscene⟩ := scrape_sound hsound ctx hstart
  refine ⟨audited, hmade, houtcome, hsamples, hscene, ?_⟩
  have hc := Script.attentive meanwhile ctx
  obtain ⟨made, hinstantiate, rfl⟩ := made_of_ofCatalogue hmade
  exact heeds hc (congrArg Connector.audited hconnector) (Catalogue.builtin_heeds hc hinstantiate) _

/-- A server with two databases, where the list of the extensions of the first does not come to an
end. -/
def stalling : Script :=
  ((({} : Script).answer "postgres" versionStatement (.rows [⟨[some "PostgreSQL 16.4"]⟩])).answer
    "postgres" Extensions.databaseStatement (.rows [⟨[some "app"]⟩, ⟨[some "store"]⟩])).answer
    "app" Extensions.extensionStatement .untilCancelled

/-- The scrape is cancelled while the server is at the extensions of the first database: nothing
more is sent, and only the collector that has nothing to ask a server of version 16 succeeds. -/
theorem scrape_heeds_cancellation_stalling :
    let interrupted : Contexts := ⟨120, [⟨some .cancelled, none, []⟩], 0, []⟩
    let meanwhile : String → ContextId → String → Scene Script → Contexts := fun _ _ sql s =>
      if sql = Extensions.extensionStatement then interrupted else s.contexts
    let template : Target Script String :=
      .unconfigured (Script.connectorAmid meanwhile) (.keyValue ⟨[⟨"host", "h"⟩]⟩) 0
    let settings : Settings := { alwaysScanned := ["app"] }
    let scene : Scene Script := ⟨⟨0, [⟨none, none, []⟩], 0, []⟩, stalling, []⟩
    let report : Report := ⟨[
      ⟨"extension", false, false, 120, some "scrape cancelled"⟩,
      ⟨"unexpected_superusers", false, false, 0, some "scrape cancelled"⟩,
      ⟨"synchronized_standby_slots", true, false, 0, none⟩], 120⟩
    let logged := (["host=h", "host=h dbname=app"], [("postgres", versionStatement),
      ("postgres", Extensions.databaseStatement), ("app", Extensions.extensionStatement)])
    ∃ scraper audited,
      ofCatalogue (Catalogue.builtin (.ofWords #[])) settings template = .ok scraper ∧
      ofCatalogue (Catalogue.builtin (.ofWords #[])) settings template.audited = .ok audited ∧
      audited.Heeds (Script.connectorAmid meanwhile) 0 Script.log (scene.withRecord []) ∧
      (scraper.scrape 0 scene).1 = .done report ∧
      Script.log (scraper.scrape 0 scene).2.2.2.server = logged := by
  intro interrupted meanwhile template settings scene report logged
  obtain ⟨scraper, hscraper, houtcome, hlog⟩ :
      ∃ scraper, ofCatalogue (Catalogue.builtin (.ofWords #[])) settings template = .ok scraper ∧
        (scraper.scrape 0 scene).1 = .done report ∧
        Script.log (scraper.scrape 0 scene).2.2.2.server = logged := by
    refine ⟨_, rfl, ?_, ?_⟩
    · decide +kernel
    · decide +kernel
  have hconnector : template.connector = Script.connectorAmid meanwhile := rfl
  obtain ⟨audited, haudited, -, -, -, hheeds⟩ :=
    scrape_heeds_cancellation hconnector hscraper 0 scene
  exact ⟨scraper, audited, hscraper, haudited, hheeds, houtcome, hlog⟩

end Scraper

end PgVitals

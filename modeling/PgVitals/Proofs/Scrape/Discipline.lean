import PgVitals.Proofs.Scrape.Isolation
import PgVitals.Proofs.Scrape.Release
import PgVitals.Proofs.Target.Opening

/-!
# Every session of a scrape is told its timeout first

A scrape opens one session for its target and one for each database that is scanned.  The timeout is
sent in two places, when a target is set up and when a sibling is connected, and from there on the
same holds of both: nothing comes before it, and nothing behind it unless it was taken.  The
invariant is that of the record of the calls; it is kept by statements that set no timeout and by
scans, so by all collectors of the program, which run only once the version is known.
-/

namespace PgVitals

variable {σ τ : Type}

/-! ## Siblings -/

/-- The session of a visit is told its timeout first. -/
theorem Extensions.Visit.calls_directed {t : Target σ τ} {v : Visit} {record : List Event}
    (h : Directed t.statementTimeout record)
    (hpossible : v.reception.IsPossible t.statementTimeout) :
    Directed t.statementTimeout (record ++ v.calls t (openings record)) := by
  have hextensions : SetsNoTimeout extensionStatement := ne_timeoutStatement (by decide)
  obtain ⟨database, ending | ⟨ending, closing⟩ | ⟨directed, answer, closing⟩⟩ := v
  · exact h.connect_of_not_done hpossible _
  · obtain ⟨hconnected, -⟩ :=
      h.connect_timed hpossible.1 (t.descriptor.retarget database).text ending
    have hclosed := hconnected.close (.opened (openings record)) closing
    rw [List.append_assoc] at hclosed
    exact hclosed
  · cases directed with
    | none =>
      -- No directive was sent, which is possible without a timeout only.
      have htimeout : t.statementTimeout = 0 := by
        simpa [Reception.IsPossible] using hpossible
      obtain ⟨hconnected, hobeys⟩ :=
        h.connect_untimed htimeout (t.descriptor.retarget database).text
      have hclosed := (hconnected.query hobeys hextensions answer).close
        (.opened (openings record)) closing
      rw [List.append_assoc, List.append_assoc] at hclosed
      exact hclosed
    | some rows =>
      have htimeout : t.statementTimeout ≠ 0 := hpossible.1 rfl
      obtain ⟨hconnected, hobeys⟩ :=
        h.connect_timed htimeout (t.descriptor.retarget database).text (.done rows)
      have hclosed := (hconnected.query (hobeys rfl) hextensions answer).close
        (.opened (openings record)) closing
      rw [List.append_assoc, List.append_assoc] at hclosed
      exact hclosed

/-! ## The invariant -/

/-- The target is the one set up by the calls on the `n`-th session, which takes statements; every
session was told its timeout first. -/
structure Disciplined (t : Target (Audited σ) (Traced τ)) (n : Nat) (calls : List Event)
    (site : Site (Audited σ) (Traced τ)) : Prop where
  target_eq : site.target = t
  began : calls <+: site.record
  directed : Directed t.statementTimeout site.record
  obeys : Obeys t.statementTimeout n site.record

namespace Disciplined

variable {c : Connector σ τ} {template t : Target (Audited σ) (Traced τ)} {n : Nat}
  {calls : List Event} {site after : Site (Audited σ) (Traced τ)}

/-- Calls that leave the target as it is. -/
theorem append (h : Disciplined t n calls site) (htarget : after.target = site.target)
    {events : List Event} (hrecord : after.record = site.record ++ events)
    (hdirected : Directed t.statementTimeout (site.record ++ events)) :
    Disciplined t n calls after where
  target_eq := htarget.trans h.target_eq
  began := by
    rw [hrecord]
    exact h.began.trans (List.prefix_append _ _)
  directed := by
    rw [hrecord]
    exact hdirected
  obeys := by
    rw [hrecord]
    exact h.obeys.append events

theorem query_keeps (ht : t.SetUpOn c template n) (ctx : ContextId) {sql : String}
    (hsql : SetsNoTimeout sql) : Step.Keeps (Disciplined t n calls) (Target.query ctx sql) := by
  intro site h
  obtain ⟨session, hhold⟩ := ht.hold
  rw [← h.target_eq] at hhold
  obtain ⟨ending, after, hquery, htarget, hrecord⟩ :=
    Target.query_sends (by rw [h.target_eq, ht.connector_eq]) hhold ctx sql
  rw [hquery]
  exact h.append htarget hrecord (h.directed.query h.obeys hsql ending)

theorem scan_keeps (ht : t.SetUpOn c template n) (ctx : ContextId) (database : String) :
    Step.Keeps (Disciplined t n calls) (Extensions.scan ctx database) := by
  intro site h
  have hconnector : site.target.connector = c.audited := by rw [h.target_eq, ht.connector_eq]
  obtain ⟨v, -, hpossible, htarget, hrecord, -⟩ := Extensions.scan_spec hconnector ctx database
  rw [h.target_eq] at hpossible hrecord
  exact h.append htarget hrecord (v.calls_directed h.directed hpossible)

/-- The collectors of the program keep every session told first. -/
theorem run_keeps (ht : t.SetUpOn c template n)
    {collector collector' : Collector (Audited σ) (Traced τ)} (h : collector.Matches collector')
    (ctx : ContextId) (hsite : Disciplined t n calls site) :
    Disciplined t n calls (collector.run ctx site).2.2.2 :=
  (h.update ctx).keeps (fun _ hsql => query_keeps ht ctx hsql)
    (fun databases known =>
      Extensions.scanAll_keeps_of (fun database => scan_keeps ht ctx database) databases known)
    { site with draws := collector.draws } hsite

end Disciplined

/-! ## Scrapes -/

theorem Opened.map_version {c : Connector σ τ}
    {ran : Outcome (Target (Audited σ) (Traced τ)) × Scene (Audited σ)}
    {ran' : Outcome (Target σ τ) × Scene σ} (h : Opened c ran ran') :
    ran.1.map Target.version = ran'.1.map Target.version := by
  cases h with
  | done hsite => exact congrArg Outcome.done hsite.2.target.version_eq
  | failed fault => rfl
  | crashed note => rfl

namespace Scraper

variable {c : Connector σ τ}

theorem scrape_of_done {s : Scraper σ τ} {ctx : ContextId} {scene after : Scene σ}
    {t : Target σ τ} (h : Target.openCopy s.template ctx scene = (.done t, after)) :
    (s.scrape ctx scene).2.1 = (s.runOn ctx ⟨t, after⟩).2.1 ∧
      (s.scrape ctx scene).2.2.2 = (Target.release (s.runOn ctx ⟨t, after⟩).2.2.2).2.scene := by
  simp only [scrape, h, and_self]

theorem scrape_of_not_done {s : Scraper σ τ} {ctx : ContextId} {scene after : Scene σ}
    {outcome : Outcome (Target σ τ)} (houtcome : outcome.isDone = false)
    (h : Target.openCopy s.template ctx scene = (outcome, after)) :
    outcome.BreaksAs (s.scrape ctx scene).1 ∧ (s.scrape ctx scene).2.1 = [] ∧
      (s.scrape ctx scene).2.2.2 = after := by
  cases outcome with
  | done t => cases houtcome
  | failed fault =>
    simp only [scrape, h, and_self, and_true]
    exact .failed fault
  | crashed note =>
    simp only [scrape, h, and_self, and_true]
    exact .crashed note

section

variable {s : Scraper (Audited σ) (Traced τ)} {t : Target (Audited σ) (Traced τ)} {n : Nat}
  {calls : List Event} {site : Site (Audited σ) (Traced τ)}

/-- The collectors run on a target that is set up, each of them on the same. -/
theorem runOn_disciplined (ht : t.SetUpOn c s.template n)
    (hcollectors : ∀ p ∈ s.collectors, p.2.Matches p.2) (ctx : ContextId)
    (h : Disciplined t n calls site) :
    ∃ turns, Relay ctx s.collectors site turns (s.runOn ctx site).2.2.2 ∧
      (s.runOn ctx site).2.1 = turns.flatMap Turn.output ∧
      (∀ turn ∈ turns, Disciplined t n calls turn.before) ∧
      Disciplined t n calls (s.runOn ctx site).2.2.2 := by
  obtain ⟨turns, hrelay, -, hsamples⟩ := relay_gather ctx s.collectors site
  have hrun : ∀ p ∈ s.collectors, ∀ site, Disciplined t n calls site →
      Disciplined t n calls (p.2.run ctx site).2.2.2 :=
    fun p hp site hsite => hsite.run_keeps ht (hcollectors p hp) ctx
  obtain ⟨hturns, hlast⟩ := hrelay.keeps hrun h
  exact ⟨turns, hrelay, hsamples, hturns, hlast⟩

/-- The release at the end closes the session and sends nothing. -/
theorem release_disciplined (ht : t.SetUpOn c s.template n) (h : Disciplined t n calls site) :
    ∃ running, (Target.release site).2.record = calls ++ running ∧
      Directed t.statementTimeout (Target.release site).2.record := by
  obtain ⟨session, hhold⟩ := ht.hold
  rw [← h.target_eq] at hhold
  obtain ⟨closing, after, hclose, -, hrecord⟩ :=
    Target.close_sends (by rw [h.target_eq, ht.connector_eq]) hhold
  obtain ⟨running, hbegan⟩ := h.began
  rw [Target.release_eq, hclose, hrecord]
  refine ⟨running ++ [.close (.opened n) closing], ?_, h.directed.close _ closing⟩
  rw [← hbegan, List.append_assoc]

end

/-- A scrape under audit of collectors that are written without regard to the server. -/
theorem scrape_disciplined_of_matches {s : Scraper (Audited σ) (Traced τ)}
    (hconnector : s.template.connector = c.audited)
    (hcollectors : ∀ p ∈ s.collectors, p.2.Matches p.2) (ctx : ContextId)
    (scene : Scene (Audited σ)) (hfresh : scene.server.record = []) :
    let ran := s.scrape ctx scene
    let record := ran.2.2.2.server.record
    let opened := (Target.openCopy s.template ctx scene).1.map Target.version
    Directed s.template.statementTimeout record ∧
      ∃ opening running, record = opening ++ running ∧
        Opening s.template.descriptor.text s.template.statementTimeout 0 opening opened ∧
        (opened.isDone = false → running = [] ∧ ran.2.1 = [] ∧ opened.BreaksAs ran.1) ∧
        ∀ version, opened = .done version →
          ∃ site turns last, Relay ctx s.collectors site turns last ∧
            ran.2.1 = turns.flatMap Turn.output ∧
            ∀ turn ∈ turns, opening <+: turn.before.record ∧
              turn.before.target.version = version ∧
              ∃ session, turn.before.target.hold = some (.owned ⟨session, .opened 0⟩) := by
  obtain ⟨calls, hopening⟩ := Target.openCopy_isOpening hconnector ctx scene
  intro ran record opened
  have hcourse := hopening.opening
  have hcalls := hopening.record_eq
  have hsetUpOn := hopening.setUpOn
  rw [hfresh] at hcourse hcalls hsetUpOn
  obtain ⟨hdirected, hobeys⟩ := hcourse.directed (Directed.nil s.template.statementTimeout)
  rw [List.nil_append] at hdirected hobeys hcalls
  rcases hcopy : Target.openCopy s.template ctx scene with ⟨outcome, after⟩
  rw [hcopy] at hcalls hobeys hsetUpOn
  have hopened : opened = outcome.map Target.version := by
    change (Target.openCopy s.template ctx scene).1.map Target.version = _
    rw [hcopy]
  cases hdone : outcome.isDone with
  | false =>
    obtain ⟨hbreaks, hnone, hfinal⟩ := scrape_of_not_done hdone hcopy
    -- Nothing is asked behind an opening that breaks, so the opening is the whole record.
    have hrecord : record = calls := by rw [← hcalls, ← hfinal]
    have hnot : opened.isDone = false := by rw [hopened, Outcome.isDone_map, hdone]
    rw [hrecord]
    refine ⟨hdirected, calls, [], (List.append_nil calls).symm, hcourse, fun _ => ⟨rfl, hnone, ?_⟩,
      fun version hknown => absurd hknown (Outcome.ne_done_of_not_done hnot version)⟩
    rw [hopened]
    exact hbreaks.map_left _
  | true =>
    obtain ⟨t, rfl⟩ := Outcome.exists_of_isDone hdone
    have ht : t.SetUpOn c s.template 0 := hsetUpOn t rfl
    have htimeout : t.statementTimeout = s.template.statementTimeout := ht.statementTimeout_eq
    have hrecord : Site.record ⟨t, after⟩ = calls := hcalls
    -- The opening left the session that all turns use, and its record is where they start.
    have hstart : Disciplined t 0 calls ⟨t, after⟩ := by
      refine ⟨rfl, ⟨[], ?_⟩, ?_, ?_⟩
      · rw [hrecord, List.append_nil]
      · rw [hrecord, htimeout]
        exact hdirected
      · rw [hrecord, htimeout]
        exact hobeys rfl
    obtain ⟨turns, hrelay, houtput, hturns, hlast⟩ := runOn_disciplined ht hcollectors ctx hstart
    obtain ⟨running, hrunning, hreleased⟩ := release_disciplined ht hlast
    obtain ⟨hemitted, hfinal⟩ := scrape_of_done hcopy
    have hrecord : record = (Target.release (s.runOn ctx ⟨t, after⟩).2.2.2).2.record :=
      congrArg (fun scene : Scene (Audited σ) => scene.server.record) hfinal
    refine ⟨?_, calls, running, hrecord.trans hrunning, hcourse, fun hnot => ?_,
      fun version hknown => ?_⟩
    · rw [hrecord, ← htimeout]
      exact hreleased
    · rw [hopened] at hnot
      cases hnot
    · rw [hopened] at hknown
      refine ⟨_, turns, _, hrelay, hemitted.trans houtput,
        fun turn hturn => ⟨(hturns turn hturn).began, ?_, ?_⟩⟩
      · rw [(hturns turn hturn).target_eq]
        exact Outcome.done.inj hknown
      · rw [(hturns turn hturn).target_eq]
        exact ht.hold

/-- **First the timeout, then the version, then the collectors.**  On every session that a scrape
opens, its own and those of the databases scanned, the timeout is set by the first statement, and
nothing else is sent unless that succeeded; without a timeout none is set.  The calls begin with an
opening: a session, the timeout, and the questions for the version, the second of them only if the
first answer came and cannot be read.  If no version comes of it there are no other calls and no
samples, and the scrape ends as the opening did.  Otherwise every collector runs behind the opening,
on its session, and knows the version that came of it. -/
theorem scrape_disciplined {draws : Draws} {settings : Settings} {template : Target σ τ}
    {scraper : Scraper σ τ}
    (h : ofCatalogue (Catalogue.builtin draws) settings template = .ok scraper) (ctx : ContextId)
    (scene : Scene σ) :
    ∃ audited, ofCatalogue (Catalogue.builtin draws) settings template.audited = .ok audited ∧
      let ran := scraper.scrape ctx scene
      let recorded := audited.scrape ctx (scene.withRecord [])
      let record := recorded.2.2.2.server.record
      let opened := (Target.openCopy template ctx scene).1.map Target.version
      (recorded.1 = ran.1 ∧ recorded.2.1 = ran.2.1 ∧ recorded.2.2.2.Audits ran.2.2.2) ∧
      Directed template.statementTimeout record ∧
      ∃ opening running, record = opening ++ running ∧
        Opening template.descriptor.text template.statementTimeout 0 opening opened ∧
        (opened.isDone = false → running = [] ∧ ran.2.1 = [] ∧ opened.BreaksAs ran.1) ∧
        ∀ version, opened = .done version →
          ∃ site turns last, Relay ctx audited.collectors site turns last ∧
            ran.2.1 = turns.flatMap Turn.output ∧
            ∀ turn ∈ turns, opening <+: turn.before.record ∧
              turn.before.target.version = version ∧
              ∃ session, turn.before.target.hold = some (.owned ⟨session, .opened 0⟩) := by
  obtain ⟨audited, hmade, hsound⟩ := ofCatalogue_sound h
  have hsettled : (scene.withRecord []).Settled scene := ⟨Accounts.nil, rfl⟩
  obtain ⟨hended, hsamples, -, -, haudits⟩ := scrape_sound hsound ctx hsettled
  have hversion := (Target.openCopy_opened hsound.template hsettled ctx).map_version
  obtain ⟨made, hinstantiate, rfl⟩ := made_of_ofCatalogue hmade
  obtain ⟨_, -, rfl⟩ := made_of_ofCatalogue h
  have hdisciplined := scrape_disciplined_of_matches hsound.template.connector_eq
    (Catalogue.matches_of_instantiate hinstantiate) ctx (scene.withRecord []) rfl
  dsimp only at hdisciplined
  rw [hversion, hended, hsamples] at hdisciplined
  exact ⟨_, hmade, ⟨hended, hsamples, haudits⟩, hdisciplined⟩

/-- Counts the statements, answers the one that was sent second with NULL and all others with the
same text. -/
def reticent : Connector Nat Unit where
  connect := fun _ _ => pure ()
  query := fun _ _ _ => do
    let scene ← Step.state
    Scene.onServer (Step.update (· + 1))
    return [⟨[if scene.server = 1 then none else some "16.4"]⟩]
  close := fun _ => pure ()

/-- The question answered with NULL is asked in the other way; the text is then taken for the name
of a database, which gets a session of its own. -/
theorem scrape_disciplined_reticent :
    let template : Target Nat Unit :=
      .unconfigured reticent (.keyValue ⟨[⟨"host", "h"⟩]⟩) 1500000000
    ∃ scraper audited,
      ofCatalogue (Catalogue.builtin (.ofWords #[])) {} template = .ok scraper ∧
      ofCatalogue (Catalogue.builtin (.ofWords #[])) {} template.audited = .ok audited ∧
      let record := (audited.scrape 0 ((Scene.around 0 0).withRecord [])).2.2.2.server.record
      Directed 1500000000 record ∧
      ((sent (.opened 0) record).map Prod.fst).take 3 =
        ["SET statement_timeout = 1500", versionStatement, serverVersionStatement] ∧
      (sent (.opened 1) record).map Prod.fst =
        ["SET statement_timeout = 1500", Extensions.extensionStatement] := by
  intro template
  obtain ⟨scraper, hscraper⟩ : ∃ scraper,
      ofCatalogue (Catalogue.builtin (.ofWords #[])) {} template = .ok scraper := ⟨_, rfl⟩
  obtain ⟨made, hmade, hsent⟩ : ∃ made,
      ofCatalogue (Catalogue.builtin (.ofWords #[])) {} template.audited = .ok made ∧
      let record := (made.scrape 0 ((Scene.around 0 0).withRecord [])).2.2.2.server.record
      ((sent (.opened 0) record).map Prod.fst).take 3 =
        ["SET statement_timeout = 1500", versionStatement, serverVersionStatement] ∧
      (sent (.opened 1) record).map Prod.fst =
        ["SET statement_timeout = 1500", Extensions.extensionStatement] :=
    ⟨_, rfl, by decide +kernel⟩
  obtain ⟨audited, haudited, -, hdirected, -⟩ := scrape_disciplined hscraper 0 (Scene.around 0 0)
  obtain rfl : made = audited := Except.ok.inj (hmade.symm.trans haudited)
  exact ⟨scraper, made, hscraper, hmade, hdirected, hsent⟩

end Scraper

end PgVitals

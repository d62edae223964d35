import PgVitals.Proofs.Cancellation.Endings
import PgVitals.Proofs.Collector.Builtin
import PgVitals.Proofs.Scrape.Isolation
import PgVitals.Proofs.Server.Steady

/-!
# Collectors do not influence each other

All collectors of a scrape work on one target with one session, and one of them opens sessions of
its own and meets with faults in between.  Over a steady connector nothing of this shows: what a
collector emits, and whether it succeeds, is the same whichever other collectors are switched on and
in whichever order they run.
-/

namespace PgVitals

variable {σ τ δ : Type} {c : Connector σ τ} {ctx : ContextId} {world : Scene σ → Prop}

/-! ## Turns -/

/-- The sample that tells whether a collector succeeded; in the sink it stands behind what the
collector emitted. -/
def Turn.success (turn : Turn σ τ) : Sample :=
  Verdict.successMetric.gauge (if turn.outcome = .done () then 1 else 0) [turn.name]

open Connector.Steady

/-- A collector comes to the same on targets that are set up alike, and leaves them so. -/
theorem Collector.run_alike {steady : c.Steady ctx world δ} {t t' : Target σ τ}
    (h : steady.Alike t t') {collector : Collector σ τ} (hcollector : collector.Matches collector)
    {site site' : Site σ τ} (hstand : Stand world t t' site site') :
    (collector.run ctx site).1 = (collector.run ctx site').1 ∧
      (collector.run ctx site).2.1 = (collector.run ctx site').2.1 ∧
      Stand world t t' (collector.run ctx site).2.2.2 (collector.run ctx site').2.2.2 := by
  obtain ⟨hended, hsamples, hafter, -⟩ := task_lockstep h (hcollector.update ctx)
    { site with draws := collector.draws } { site' with draws := collector.draws } hstand rfl
  exact ⟨Outcome.related_eq_iff.1 hended, hsamples, hafter⟩

/-- All collectors have their turns on the same target, in scenes of the world. -/
theorem Relay.stand {steady : c.Steady ctx world δ} {t : Target σ τ} (h : steady.Alike t t)
    {collectors : List (String × Collector σ τ)} (hcollectors : ∀ p ∈ collectors, p.2.Matches p.2)
    {site last : Site σ τ} {turns : List (Turn σ τ)} (hrelay : Relay ctx collectors site turns last)
    (htarget : site.target = t) (hworld : world site.scene) :
    ∀ turn ∈ turns, turn.before.target = t ∧ world turn.before.scene := by
  have hrun : ∀ p ∈ collectors, ∀ site, site.target = t ∧ world site.scene →
      (p.2.run ctx site).2.2.2.target = t ∧ world (p.2.run ctx site).2.2.2.scene := by
    rintro p hp site ⟨htarget, hworld⟩
    obtain ⟨-, -, ⟨hafter, -⟩, hscene, -⟩ := Collector.run_alike h (hcollectors p hp)
      ⟨⟨htarget, htarget⟩, hworld, hworld⟩
    exact ⟨hafter, hscene⟩
  exact (hrelay.keeps (I := fun site => site.target = t ∧ world site.scene) hrun
    ⟨htarget, hworld⟩).1

/-! ## Scrapes -/

namespace Scraper

/-- **Collectors do not influence each other.**  Over a connector whose statements are answered by
the database of the session and the statement, and whose sessions are opened by the descriptor
alone, as long as its calls stay in a world of scenes, two scrapes by collectors that are new and
switched on in part, in any order, set up a target both or neither.  If they do, every collector has
a turn in each scrape in which it is switched on, and emits the same samples and the same sample of
success in its two turns. -/
theorem scrape_independent (steady : c.Steady ctx world δ) {draws : Draws} {settings : Settings}
    {overrides : Dictionary Bool} {made made' : List (String × Collector σ τ)}
    (h : (Catalogue.builtin draws).instantiate settings = .ok made)
    (h' : (Catalogue.builtin draws).instantiate { settings with overrides := overrides } =
      .ok made')
    (scraper scraper' : Scraper σ τ) (horder : scraper.collectors.Perm made)
    (horder' : scraper'.collectors.Perm made') (htemplate : scraper.template = scraper'.template)
    (hconnector : scraper.template.connector = c) {scene scene' : Scene σ} (hscene : world scene)
    (hscene' : world scene') :
    ∃ turns turns', scraper.Turns ctx scene turns ∧ scraper'.Turns ctx scene' turns' ∧
      (scraper.scrape ctx scene).2.1 = turns.flatMap Turn.output ∧
      (scraper'.scrape ctx scene').2.1 = turns'.flatMap Turn.output ∧
      (turns.map Turn.name = scraper.names ∧ turns'.map Turn.name = scraper'.names ∨
        turns = [] ∧ turns' = []) ∧
      ∀ turn ∈ turns, ∀ turn' ∈ turns', turn.name = turn'.name →
        turn.samples = turn'.samples ∧ turn.success = turn'.success := by
  have hmatches : ∀ p ∈ scraper.collectors, p.2.Matches p.2 :=
    fun p hp => Catalogue.matches_of_instantiate h p (horder.mem_iff.1 hp)
  have hmatches' : ∀ p ∈ scraper'.collectors, p.2.Matches p.2 :=
    fun p hp => Catalogue.matches_of_instantiate h' p (horder'.mem_iff.1 hp)
  obtain ⟨turns, hturns, hsamples⟩ := scraper.exists_turns ctx scene
  obtain ⟨turns', hturns', hsamples'⟩ := scraper'.exists_turns ctx scene'
  have hcopies : steady.Copies (Target.openCopy scraper.template ctx scene)
      (Target.openCopy scraper'.template ctx scene') := by
    rw [← htemplate]
    exact openCopy_copies hconnector ⟨hscene, hscene'⟩
  refine ⟨turns, turns', hturns, hturns', hsamples, hsamples', ?_⟩
  cases hcopies with
  | notDone hopen hopen' =>
    obtain rfl := hturns.of_not_done hopen
    exact ⟨.inr ⟨rfl, hturns'.of_not_done hopen'⟩, List.forall_mem_nil _⟩
  | @done t t' s s' hopen hopen' halike hwithin =>
    obtain ⟨last, hrelay⟩ := hturns.of_done hopen
    obtain ⟨last', hrelay'⟩ := hturns'.of_done hopen'
    refine ⟨.inl ⟨hrelay.map_name, hrelay'.map_name⟩, fun turn hturn turn' hturn' hname => ?_⟩
    -- Turns of one name are runs of one collector, from two sites that stand alike.
    obtain ⟨collector, after, hmem, hrun⟩ := hrelay.exists_run hturn
    obtain ⟨collector', after', hmem', hrun'⟩ := hrelay'.exists_run hturn'
    rw [← hname] at hmem'
    obtain rfl : collector = collector' :=
      Catalogue.made_eq h h' (horder.mem_iff.1 hmem) (horder'.mem_iff.1 hmem')
    obtain ⟨htarget, hworld⟩ := hrelay.stand halike.left hmatches rfl hwithin.1 turn hturn
    obtain ⟨htarget', hworld'⟩ :=
      hrelay'.stand halike.symm.left hmatches' rfl hwithin.2 turn' hturn'
    obtain ⟨hended, hemitted, -⟩ := Collector.run_alike halike (hmatches _ hmem)
      ⟨⟨htarget, htarget'⟩, hworld, hworld'⟩
    rw [hrun, hrun'] at hended hemitted
    have houtcome : turn.outcome = turn'.outcome := hended
    refine ⟨hemitted, ?_⟩
    rw [Turn.success, Turn.success, houtcome, hname]

/-- Opens every session and answers every statement on it, without regard to anything else. -/
def answering (answers : String → String → Outcome (List Row)) : Connector Unit String where
  connect := fun _ descriptor => pure descriptor
  query := fun session _ sql => Step.finish (answers session sql)
  close := fun _ => pure ()

def answeringSteady (answers : String → String → Outcome (List Row)) (ctx : ContextId)
    (world : Scene Unit → Prop) : (answering answers).Steady ctx world String where
  database := id
  opens := .done
  answers := answers
  closes := fun _ => .done ()
  connect := fun hs _ => ⟨rfl, hs⟩
  query := fun hs _ _ => ⟨rfl, hs⟩
  close := fun hs _ => ⟨rfl, hs⟩

/-- Three collectors in the order of the catalogue, and three in the opposite order at another time,
two of which are the same. -/
theorem scrape_independent_reversed :
    let answers := fun (_ _ : String) => Outcome.done [(⟨[some "PostgreSQL 16.4"]⟩ : Row)]
    let template : Target Unit String :=
      .unconfigured (answering answers) (.keyValue ⟨[⟨"host", "h"⟩]⟩) 0
    let scene := fun now => (⟨((Contexts.startingAt now).background).2, (), []⟩ : Scene Unit)
    let overrides := (Dictionary.empty.insert Superusers.subsystem false).insert
      Transactions.subsystem true
    ∃ made made', (Catalogue.builtin (.ofWords #[])).instantiate {} = .ok made ∧
      (Catalogue.builtin (.ofWords #[])).instantiate { overrides := overrides } = .ok made' ∧
      (∀ now, (scene now).contexts.ending? 0 = none) ∧
      ∃ turns turns' : List (Turn Unit String),
        (Scraper.scrape ⟨made, template⟩ 0 (scene 0)).2.1 = turns.flatMap Turn.output ∧
        (Scraper.scrape ⟨made'.reverse, template⟩ 0 (scene 7)).2.1 = turns'.flatMap Turn.output ∧
        turns.map Turn.name =
          ["extension", "unexpected_superusers", "synchronized_standby_slots"] ∧
        turns'.map Turn.name =
          ["synchronized_standby_slots", "long_running_transactions", "extension"] ∧
        ∀ turn ∈ turns, ∀ turn' ∈ turns', turn.name = turn'.name →
          turn.samples = turn'.samples ∧ turn.success = turn'.success := by
  intro answers template scene overrides
  obtain ⟨made, hmade, hnames, hsome⟩ : ∃ made,
      (Catalogue.builtin (.ofWords #[])).instantiate {} = .ok made ∧
      (made.map Prod.fst = ["extension", "unexpected_superusers", "synchronized_standby_slots"]) ∧
      (Scraper.scrape ⟨made, template⟩ 0 (scene 0)).2.1.isEmpty = false :=
    ⟨_, rfl, rfl, by decide +kernel⟩
  obtain ⟨made', hmade', hnames'⟩ : ∃ made',
      (Catalogue.builtin (.ofWords #[])).instantiate { overrides := overrides } = .ok made' ∧
      (made'.reverse.map Prod.fst =
        ["synchronized_standby_slots", "long_running_transactions", "extension"]) :=
    ⟨_, rfl, rfl⟩
  have hlive : ∀ now, (scene now).contexts.ending? 0 = none := fun now => rfl
  have steady := answeringSteady answers 0 fun s => s.contexts.ending? 0 = none
  obtain ⟨turns, turns', -, -, hsamples, hsamples', hall, hsame⟩ :=
    scrape_independent steady hmade hmade' ⟨made, template⟩ ⟨made'.reverse, template⟩ (.refl made)
      made'.reverse_perm rfl rfl (hlive 0) (hlive 7)
  refine ⟨made, made', hmade, hmade', hlive, turns, turns', hsamples, hsamples', ?_⟩
  obtain ⟨hturns, hturns'⟩ | ⟨rfl, -⟩ := hall
  · exact ⟨hturns.trans hnames, hturns'.trans hnames', hsame⟩
  · rw [hsamples] at hsome
    cases hsome

end Scraper

end PgVitals

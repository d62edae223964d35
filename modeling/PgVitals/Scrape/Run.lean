import PgVitals.Catalogue
import PgVitals.Collector.Basic
import PgVitals.Scrape.Report

/-!
# Scrapes

A scraper has the enabled collectors and a template of the target. A scrape sets up a copy of the
template, runs every collector on it under one context, and closes it. Whatever a collector does,
the others run, and the samples of each stand behind those of the collectors before it, followed by
the samples that tell its verdict. Only a target that cannot be set up makes a scrape fail, and then
nothing is emitted.
-/

namespace PgVitals

/-- The collectors of a host and the target to run them on. -/
structure Scraper (σ τ : Type) where
  /-- The collectors under their names, in the order in which they run. -/
  collectors : List (String × Collector σ τ)
  /-- The target that is set up for every scrape. -/
  template : Target σ τ

/-- Where a run of collectors stands. -/
structure Gathered (σ τ : Type) where
  /-- The verdicts on the collectors that had their turn. -/
  verdicts : List Verdict
  /-- What the sink holds, in the order of the emissions. -/
  samples : List Sample
  /-- The collectors that had their turn, with the places in their random sources. -/
  collectors : List (String × Collector σ τ)
  site : Site σ τ

namespace Scraper

variable {σ τ : Type}

/-- The scraper of the collectors that the settings enable. -/
def ofCatalogue (catalogue : Catalogue (Collector σ τ)) (settings : Settings)
    (template : Target σ τ) : Except Fault (Scraper σ τ) :=
  (catalogue.instantiate settings).map fun collectors => ⟨collectors, template⟩

def names (s : Scraper σ τ) : List String := s.collectors.map Prod.fst

def timeOf (site : Site σ τ) : Nat := site.scene.contexts.now

/-- The next collector has its turn. What it emits goes to the sink whatever becomes of it, and the
samples of its verdict behind that. -/
def advance (ctx : ContextId) (g : Gathered σ τ) (entry : String × Collector σ τ) : Gathered σ τ :=
  let (outcome, samples, collector, after) := entry.2.run ctx g.site
  let verdict := Verdict.ofOutcome entry.1 (timeOf after - timeOf g.site) outcome
  ⟨g.verdicts ++ [verdict], g.samples ++ samples ++ verdict.samples,
    g.collectors ++ [(entry.1, collector)], after⟩

/-- Runs collectors one after the other on a sink that may hold samples already. -/
def gather (ctx : ContextId) (collectors : List (String × Collector σ τ)) (sink : List Sample)
    (site : Site σ τ) : Gathered σ τ :=
  collectors.foldl (advance ctx) ⟨[], sink, [], site⟩

/-- Runs every collector on a target that is set up, with an empty sink: the report, the samples,
and the scraper and the site after that. -/
def runOn (s : Scraper σ τ) (ctx : ContextId) (site : Site σ τ) :
    Report × List Sample × Scraper σ τ × Site σ τ :=
  let gathered := gather ctx s.collectors [] site
  (⟨gathered.verdicts, timeOf gathered.site - timeOf site⟩, gathered.samples,
    { s with collectors := gathered.collectors }, gathered.site)

/-- One scrape: how it ended, the samples, and the scraper and the scene after it. -/
def scrape (s : Scraper σ τ) (ctx : ContextId) (scene : Scene σ) :
    Outcome Report × List Sample × Scraper σ τ × Scene σ :=
  match Target.openCopy s.template ctx scene with
  | (.failed fault, scene) => (.failed fault, [], s, scene)
  | (.crashed note, scene) => (.crashed note, [], s, scene)
  | (.done target, after) =>
    let (report, samples, s, site) := s.runOn ctx ⟨target, after⟩
    let (closed, site) := Target.release site
    -- Measured anew, with the opening and the closing.
    let report := { report with duration := timeOf site - scene.contexts.now }
    (closed.map fun () => report, samples, s, site.scene)

end Scraper

end PgVitals

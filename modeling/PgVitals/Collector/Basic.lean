import PgVitals.Collector.Draws
import PgVitals.Metric.Sample
import PgVitals.Target

/-!
# Collectors

A collector asks a target and emits samples. Its work is a task: a step that can only add samples to
what was emitted before, in order, and whose samples stay even if it fails later. A task may also
draw from the collector's random source, which keeps its place from one update to the next.

A task never sees the sink: it cannot read, reorder or drop what others emitted, and what it does
cannot depend on that. No built-in collector looks into its sink. The run over a sink is
`Scraper.gather`.
-/

namespace PgVitals

/-- What a collector works on. -/
structure Bench (σ τ : Type) extends Site σ τ where
  draws : Draws

/-- A step that emits samples. -/
def Task (σ τ α : Type) : Type := Bench σ τ → Outcome α × List Sample × Bench σ τ

namespace Task

variable {σ τ α β : Type}

instance : Monad (Task σ τ) where
  pure value := fun b => (.done value, [], b)
  bind task next := fun b =>
    match task b with
    | (.done value, samples, b) =>
      let (outcome, more, b) := next value b
      (outcome, samples ++ more, b)
    | (.failed fault, samples, b) => (.failed fault, samples, b)
    | (.crashed note, samples, b) => (.crashed note, samples, b)

/-- A step that emits nothing. -/
def ofStep (step : Step (Bench σ τ) α) : Task σ τ α := fun b =>
  let (outcome, b) := step b
  (outcome, [], b)

/-- A step on the target and the world around it. -/
def onSite (step : Step (Site σ τ) α) : Task σ τ α :=
  ofStep (step.on Bench.toSite fun site b => { b with toSite := site })

def fail (fault : Fault) : Task σ τ α := ofStep (Step.fail fault)

def finish (outcome : Outcome α) : Task σ τ α := ofStep (Step.finish outcome)

def emit (s : Sample) : Task σ τ Unit := fun b => (.done (), [s], b)

def emitAll (samples : List Sample) : Task σ τ Unit := fun b => (.done (), samples, b)

def query (ctx : ContextId) (sql : String) : Task σ τ (List Row) := onSite (Target.query ctx sql)

def target : Task σ τ (Target σ τ) := onSite Target.this

def draw (f : Draws → α × Draws) : Task σ τ α := fun b =>
  let (value, draws) := f b.draws
  (.done value, [], { b with draws := draws })

end Task

/-- A collector: what an update does, and the place in its random source. -/
structure Collector (σ τ : Type) where
  draws : Draws
  update : ContextId → Task σ τ Unit

namespace Collector

variable {σ τ : Type}

/-- A collector that draws nothing. -/
def ofUpdate (update : ContextId → Task σ τ Unit) : Collector σ τ := ⟨.ofWords #[], update⟩

/-- Runs one update: how it ended, what it emitted, and the collector and the site after it. -/
def run (c : Collector σ τ) (ctx : ContextId) (site : Site σ τ) :
    Outcome Unit × List Sample × Collector σ τ × Site σ τ :=
  let (outcome, samples, bench) := c.update ctx { site with draws := c.draws }
  (outcome, samples, { c with draws := bench.draws }, bench.toSite)

end Collector

end PgVitals

import PgVitals.Metric.Sample
import PgVitals.Step

/-!
# Reports of a scrape

A report holds a verdict for every collector, in the order in which they ran. A collector that says
that it has no data did not succeed, but nothing went wrong either.
-/

namespace PgVitals

/-- How one collector fared. -/
structure Verdict where
  name : String
  success : Bool
  /-- Whether it said that it has no data. -/
  noData : Bool
  /-- How many milliseconds it took. -/
  duration : Nat
  error : Option String
deriving DecidableEq, Repr

structure Report where
  verdicts : List Verdict := []
  /-- How many milliseconds the scrape took. -/
  duration : Nat := 0
deriving DecidableEq, Repr

/-- The fault that stands for a crash of a collector. -/
def crashFault : Option String → Fault
  | some note => .queryFailed ("collector panicked: " ++ note)
  | none => .queryFailed "collector panicked"

namespace Verdict

def ofFault (name : String) (duration : Nat) (fault : Fault) : Verdict :=
  ⟨name, false, fault.isNoData, duration, if fault.isNoData then none else some fault.message⟩

def ofOutcome (name : String) (duration : Nat) : Outcome Unit → Verdict
  | .done () => ⟨name, true, false, duration, none⟩
  | .failed fault => ofFault name duration fault
  | .crashed note => ofFault name duration (crashFault note)

def successMetric : Metric :=
  ⟨"scrape", "collector_success", "Whether a collector succeeded.", ["collector"]⟩

def durationMetric : Metric :=
  ⟨"scrape", "collector_duration_seconds", "Duration of a collector scrape.", ["collector"]⟩

/-- A number of milliseconds in seconds. -/
def seconds (milliseconds : Nat) : Float := milliseconds.toFloat / 1000

def samples (v : Verdict) : List Sample :=
  [successMetric.gauge (if v.success then 1 else 0) [v.name],
    durationMetric.gauge (seconds v.duration) [v.name]]

end Verdict

namespace Report

def succeeded (r : Report) : Nat := r.verdicts.countP Verdict.success

def failed (r : Report) : Nat := r.verdicts.length - r.succeeded

def verdict? (r : Report) (name : String) : Option Verdict :=
  r.verdicts.find? fun v => v.name = name

end Report

end PgVitals

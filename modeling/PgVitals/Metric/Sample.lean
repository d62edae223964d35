import PgVitals.Dictionary

/-!
# Metrics and samples

A metric is what a collector declares once: its name, its help text and the names of its labels. A
sample is one observation of it. The full name of a metric starts with the namespace shared by all
metrics, then the collector's subsystem, then the name; empty parts are left out.
-/

namespace PgVitals

inductive MetricKind where
  /-- A value that may rise and fall. -/
  | gauge
  /-- A value that only rises. -/
  | counter
deriving DecidableEq, Repr

def MetricKind.text : MetricKind → String
  | .gauge => "gauge"
  | .counter => "counter"

/-- One observation. -/
structure Sample where
  /-- The full name of the metric. -/
  name : String
  help : String
  kind : MetricKind
  value : Float
  /-- The labels that tell this observation from others of the metric. -/
  labels : Dictionary String

namespace Sample

def label? (s : Sample) (name : String) : Option String := s.labels.get? name

/-- What tells one series from another: the name and the labels. -/
def series (s : Sample) : String × Dictionary String := (s.name, s.labels)

end Sample

/-- The parts that are not empty, with underscores between them. -/
def joinName (parts : List String) : String :=
  String.intercalate "_" (parts.filter (!·.isEmpty))

/-- The part that all names of metrics start with. -/
def metricNamespace : String := "pg"

/-- What a collector declares about one of its metrics. -/
structure Metric where
  /-- The part of the name that tells the collector. -/
  subsystem : String
  /-- The part of the name that tells the metric. -/
  name : String
  help : String
  labels : List String
deriving DecidableEq, Repr

namespace Metric

def fullName (m : Metric) : String := joinName [metricNamespace, m.subsystem, m.name]

/-- An observation of a gauge; the label values stand in the order of the label names. -/
def gauge (m : Metric) (value : Float) (labelValues : List String) : Sample where
  name := m.fullName
  help := m.help
  kind := .gauge
  value := value
  labels := Dictionary.ofList (m.labels.zip labelValues)

end Metric

end PgVitals

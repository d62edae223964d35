import PgVitals.Metric.Document
import PgVitals.Metric.Exposition
import PgVitals.Timestamp

/-!
# The output of a scrape

The samples of a scrape are published with the time of the scrape in one of two formats: the text
exposition behind a comment line, or a JSON document.
-/

namespace PgVitals

inductive OutputFormat where
  | text
  | json
deriving DecidableEq, Repr

/-- The output for samples collected at a time, given in seconds from the start of 1970. -/
def OutputFormat.render (format : OutputFormat) (samples : List Sample) (seconds : Int) : String :=
  let time := Timestamp.text seconds
  match format with
  | .text => "# pgprobed scrape at " ++ time ++ "\n" ++ Exposition.text samples
  | .json => Document.text samples time

end PgVitals

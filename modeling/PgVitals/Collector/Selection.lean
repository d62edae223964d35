import PgVitals.Collector.Draws

/-!
# Which databases to scan

A scrape scans a limited number of databases: first those that are always scanned, then a random
sample of the others. Databases that are always scanned are never left out to keep the limit.
-/

namespace PgVitals.Selection

/-- Takes names out of those pending, each at most once, in the order of a list of names: the names
taken and the names left. -/
def take : List String → List String → List String × List String
  | [], pending => ([], pending)
  | name :: rest, pending =>
    if name ∈ pending then
      let (taken, left) := take rest (pending.filter (· ≠ name))
      (name :: taken, left)
    else take rest pending

/-- The databases to scan: all eligible ones in their order when the limit is not positive; else the
eligible ones among `first`, in that order, then others in a random order up to the limit. -/
def select (eligible first : List String) (limit : Int) (d : Draws) : List String × Draws :=
  if limit ≤ 0 then (eligible, d)
  else
    let (always, pending) := take first eligible
    let (others, _) := take eligible pending
    let (sample, d) := d.shuffle others
    -- Natural subtraction: nothing is sampled once the fixed ones fill the limit.
    (always ++ sample.take (limit.toNat - always.length), d)

end PgVitals.Selection

import PgVitals.Collector.Basic

/-!
# Collectors that follow a script

A collector for trying out what surrounds it: it emits what it is told to, may run a statement and
cancel its context, and ends as it is told to.
-/

namespace PgVitals

/-- What a scripted collector does, in this order. -/
structure CollectorScript where
  emits : List Sample
  statement : Option String
  cancels : Bool
  ending : Outcome Unit

def CollectorScript.collector {σ τ : Type} (script : CollectorScript) : Collector σ τ :=
  .ofUpdate fun ctx => do
    Task.emitAll script.emits
    if let some sql := script.statement then Task.onSite (Target.execute ctx sql)
    if script.cancels then Task.onSite (Target.onScene (Scene.cancel ctx))
    Task.finish script.ending

end PgVitals

import PgVitals.Catalogue
import PgVitals.Collector.BuildTimes
import PgVitals.Collector.Extensions
import PgVitals.Collector.StandbySlots
import PgVitals.Collector.Superusers
import PgVitals.Collector.Transactions

/-!
# The collectors that come with the program

| Collector                    | By default | Needs       |
|------------------------------|------------|-------------|
| `extension`                  | on         | any version |
| `unexpected_superusers`      | on         | any version |
| `long_running_transactions`  | off        | any version |
| `synchronized_standby_slots` | on         | version 17  |
| `postgres_binaries`          | off        | any version |
-/

namespace PgVitals

variable {σ τ : Type}

/-- The catalogue of the collectors; the one for extensions draws from a random source. -/
def Catalogue.builtin (draws : Draws) : Catalogue (Collector σ τ) :=
  ⟨[⟨Extensions.subsystem, true, fun s => .ok (Extensions.collector s draws)⟩,
    ⟨Superusers.subsystem, true, fun s => .ok (Superusers.collector s)⟩,
    ⟨Transactions.subsystem, false, fun _ => .ok Transactions.collector⟩,
    ⟨StandbySlots.subsystem, true, fun _ => .ok StandbySlots.collector⟩,
    ⟨BuildTimes.subsystem, false, fun _ => .ok BuildTimes.collector⟩]⟩

end PgVitals

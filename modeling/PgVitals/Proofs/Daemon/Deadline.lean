import PgVitals.Daemon
import PgVitals.Proofs.CommandLine.Attached
import PgVitals.Proofs.Decimal.Unsigned
import PgVitals.Proofs.Server.Client

/-!
# The deadline of a round

The flag for the scrape timeout takes every number of seconds that has 64 bits, and the deadline of
a round lies that long after the clock.  The clock counts seconds with 63 bits only.  A deadline
beyond its last second crashes the run before the first scrape, which is then not bounded but never
made.
-/

namespace PgVitals

variable {σ τ : Type}

/-! ## Deadlines -/

namespace Contexts

theorem withTimeout_of_le {n : Nat} {cs : Contexts} (h : n = 0 ∨ cs.now / 1000 + n ≤ lastSecond) :
    ∃ id after, withTimeout (1000 * n) cs = (.done id, after) := by
  by_cases hzero : 1000 * n = 0
  · rw [withTimeout, if_pos hzero]
    exact ⟨_, _, rfl⟩
  · have hlast : ¬lastSecond < (cs.now + 1000 * n) / 1000 := by omega
    rw [withTimeout, if_neg hzero, if_neg hlast]
    exact ⟨_, _, rfl⟩

theorem withTimeout_of_not_le {n : Nat} {cs : Contexts}
    (h : ¬(n = 0 ∨ cs.now / 1000 + n ≤ lastSecond)) :
    withTimeout (1000 * n) cs =
      (.crashed (some "overflow when adding duration to instant"), cs) := by
  have hzero : ¬1000 * n = 0 := by omega
  have hlast : lastSecond < (cs.now + 1000 * n) / 1000 := by omega
  rw [withTimeout, if_neg hzero, if_pos hlast]

end Contexts

namespace Daemon

theorem roundContext_of_le {o : Options} {now : Nat}
    (h : o.scrapeTimeout = 0 ∨ now / 1000 + o.scrapeTimeout ≤ Contexts.lastSecond) (server : σ) :
    ∃ ctx scene, roundContext o server now = (.done ctx, scene) := by
  obtain ⟨ctx, after, htimeout⟩ := @Contexts.withTimeout_of_le _ (.startingAt now) h
  refine ⟨ctx, { Scene.around server now with contexts := after }, ?_⟩
  simp only [roundContext, Scene.onContexts, Step.on, Scene.around, htimeout]

theorem roundContext_of_not_le {o : Options} {now : Nat}
    (h : ¬(o.scrapeTimeout = 0 ∨ now / 1000 + o.scrapeTimeout ≤ Contexts.lastSecond)) (server : σ) :
    roundContext o server now =
      (.crashed (some "overflow when adding duration to instant"), Scene.around server now) := by
  have htimeout := @Contexts.withTimeout_of_not_le _ (.startingAt now) h
  simp only [roundContext, Scene.onContexts, Step.on, Scene.around, htimeout]

/-! ## Runs -/

/-- Whether a run can start does not depend on the scrape timeout. -/
theorem result_start_scrapeTimeout (c : Connector σ τ) (env : Environment) (draws : Draws)
    (o : Options) (n : Nat) :
    (start c env draws { o with scrapeTimeout := n }).result = (start c env draws o).result := by
  have htext : descriptorText env { o with scrapeTimeout := n } = descriptorText env o := rfl
  have hsettings : ({ o with scrapeTimeout := n } : Options).settings = o.settings := rfl
  -- The lines tell the timeout, so the starts are not equal; only what they come to is.
  rw [start, start, htext, hsettings]
  cases descriptorText env o with
  | error problem => rfl
  | ok text =>
    dsimp only
    cases Target.ofText c text o.statementTimeout with
    | error fault => rfl
    | ok template =>
      dsimp only
      cases Scraper.ofCatalogue (Catalogue.builtin draws) o.settings template with
      | error fault => rfl
      | ok scraper => rfl

/-- The run makes the context of its first round, and leaves behind what the scrape under that
context does. -/
def Scrapes (s : Surroundings σ τ) (o : Options) (scraper : Scraper σ τ) : Prop :=
  ∃ ctx scene, roundContext o s.server s.now = (.done ctx, scene) ∧
    runOptions s o = endAfter o (start s.connector s.env s.draws o).lines
      (scrapeOnce o 1 s.seconds scraper ctx scene s.outlets)

/-- The run that crashes over the deadline of its first round. -/
def overflown (s : Surroundings σ τ) (o : Options) : Run :=
  ⟨crashCode,
    (start s.connector s.env s.draws o).lines ++ ["overflow when adding duration to instant"],
    s.outlets⟩

variable {s : Surroundings σ τ} {o : Options} {scraper : Scraper σ τ}

theorem scrapes_of_le (hstart : (start s.connector s.env s.draws o).result = .ok scraper)
    (h : o.scrapeTimeout = 0 ∨ s.now / 1000 + o.scrapeTimeout ≤ Contexts.lastSecond) :
    Scrapes s o scraper := by
  obtain ⟨ctx, scene, hround⟩ := roundContext_of_le h s.server
  refine ⟨ctx, scene, hround, ?_⟩
  simp only [runOptions, hstart, hround]

theorem run_of_not_le (hstart : (start s.connector s.env s.draws o).result = .ok scraper)
    (h : ¬(o.scrapeTimeout = 0 ∨ s.now / 1000 + o.scrapeTimeout ≤ Contexts.lastSecond)) :
    ¬Scrapes s o scraper ∧ runOptions s o = overflown s o := by
  have hround := roundContext_of_not_le h s.server
  constructor
  · rintro ⟨ctx, scene, hdone, -⟩
    rw [hround] at hdone
    cases hdone
  · simp only [runOptions, hstart, hround]
    rfl

/-- **A timeout can be used just when the clock can name its end.**  The flag takes every number of
seconds of 64 bits.  A run that could start goes on to its scrape if the number is zero or the end
of the timeout is not beyond the last second of the clock, and crashes before it otherwise. -/
theorem scrapes_iff_deadline {n : Nat} (hn : n < UInt64.size) :
    CommandLine.read [Flag.scrapeTimeout.attached (toString n)] = .ok { scrapeTimeout := n } ∧
      ∀ o : Options,
        let given : Options := { o with scrapeTimeout := n }
        Flag.scrapeTimeout.apply (toString n) o = .ok given ∧
          ∀ (s : Surroundings σ τ) (scraper : Scraper σ τ),
            (start s.connector s.env s.draws o).result = .ok scraper →
              (Scrapes s given scraper ↔ n = 0 ∨ s.now / 1000 + n ≤ Contexts.lastSecond) ∧
                (Scrapes s given scraper ∨ runOptions s given = overflown s given) := by
  have happly : ∀ o : Options,
      Flag.scrapeTimeout.apply (toString n) o = .ok { o with scrapeTimeout := n } := by
    intro o
    simp only [Flag.apply, Flag.unsigned, Decimal.readUnsigned64_toString hn]
    rfl
  refine ⟨(CommandLine.read_attached rfl _).trans (happly {}), fun o =>
    ⟨happly o, fun s scraper hstart => ?_⟩⟩
  rw [← result_start_scrapeTimeout s.connector s.env s.draws o n] at hstart
  by_cases h : n = 0 ∨ s.now / 1000 + n ≤ Contexts.lastSecond
  · have hscrapes := scrapes_of_le hstart h
    exact ⟨iff_of_true hscrapes h, .inl hscrapes⟩
  · obtain ⟨hnot, hrun⟩ := run_of_not_le hstart h
    exact ⟨iff_of_false hnot h, .inr hrun⟩

/-- A run without variables for a server that cannot be reached, at the start of the clock. -/
def aloof : Surroundings Unit Empty :=
  { connector := Unreachable.connector, server := (), env := .empty, draws := .ofWords #[],
    now := 0, seconds := 0, outlets := {} }

/-- The longest timeout that can be used when the clock starts, and the first that cannot. -/
theorem scrapes_iff_deadline_last :
    let given (n : Nat) : Options := { dsn := some "host=h user=u", scrapeTimeout := n }
    ∃ scraper, Scrapes aloof (given Contexts.lastSecond) scraper ∧
      ¬Scrapes aloof (given (Contexts.lastSecond + 1)) scraper := by
  intro given
  have hok : (start aloof.connector aloof.env aloof.draws (given 0)).result.isOk = true := by
    decide +kernel
  cases hstart : (start aloof.connector aloof.env aloof.draws (given 0)).result with
  | error code =>
    rw [hstart] at hok
    cases hok
  | ok scraper =>
    have hlast : Contexts.lastSecond + 1 < UInt64.size := by decide
    have hused := ((scrapes_iff_deadline (Nat.lt_of_succ_lt hlast)).2 (given 0)).2 aloof scraper
      hstart
    have hpassed := ((scrapes_iff_deadline hlast).2 (given 0)).2 aloof scraper hstart
    exact ⟨scraper, hused.1.2 (.inr (by decide)), mt hpassed.1.1 (by decide)⟩

/-- The greatest timeout of 64 bits is admitted and crashes the run. -/
theorem run_crashes_greatest_timeout :
    let run := run aloof ["--once", "--dsn", "host=/nonexistent/pgprobe user=u", "--scrape-timeout",
      "18446744073709551615"]
    run.code = crashCode ∧
      run.lines.getLast? = some "overflow when adding duration to instant" := by
  decide +kernel

end Daemon

end PgVitals

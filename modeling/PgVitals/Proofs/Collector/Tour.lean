import PgVitals.Proofs.Collector.Visits
import PgVitals.Proofs.Server.Plain

/-!
# Scanning databases one after the other

A run over the databases is a tour: a visit to each of them in order, unless a crash or the end of
the context breaks the tour off.  What is known at the end comes from the visits that found
something, a later row and a later visit taking the place of earlier ones.
-/

namespace PgVitals.Extensions

variable {σ τ : Type}

/-! ## Tours -/

/-- The calls of visits one after the other, the first session opened being the `n`-th. -/
def tourCalls (t : Target σ τ) : Nat → List Visit → List Event
  | _, [] => []
  | n, v :: rest => v.calls t n ++ tourCalls t (n + openings (v.calls t n)) rest

/-- What is known after a tour. -/
def merge (tour : List Visit) (known : Known) : Known :=
  tour.foldl (fun known v => note v.database (v.found?.getD []) known) known

theorem merge_cons (v : Visit) (rest : List Visit) (known : Known) :
    merge (v :: rest) known = merge rest (note v.database (v.found?.getD []) known) := rfl

theorem scanAll_cons {ctx : ContextId} {database : String} {site after : Site σ τ}
    {outcome : Outcome (List (String × String))} (h : scan ctx database site = (outcome, after))
    (rest : List String) (known : Known) :
    scanAll ctx (database :: rest) known site =
      (match outcome with
        | .done found => scanAll ctx rest (note database found known)
        | .failed fault => if fault.isCancellation then Step.fail fault else scanAll ctx rest known
        | .crashed note => Step.finish (.crashed note)) after := by
  have hattempt : (scan ctx database).attempt site = (.done outcome, after) := by
    rw [Step.attempt, h]
  exact Step.bind_of_done hattempt

/-! ## Scans in lockstep -/

section

variable {σ' τ' : Type} {R : Site σ τ → Site σ' τ' → Prop} {ctx : ContextId}

/-- Connectors that simulate each other let a database be scanned in lockstep. -/
theorem scan_lockstep_of {c : Connector σ τ} {c' : Connector σ' τ'}
    {S : Scene σ → Scene σ' → Prop} {T : τ → τ' → Prop} (hc : c.Simulates c' ctx S T)
    (hsite : ∀ site site', R site site' →
      site.target.SameServer c c' site'.target ∧ S site.scene site'.scene)
    (hscene : ∀ site site' s s', R site site' → S s s' →
      R { site with scene := s } { site' with scene := s' }) (database : String) :
    Step.Lockstep R Eq (scan ctx database) (scan ctx database) := by
  have hthis : Step.Lockstep R (Target.SameServer c c') Target.this Target.this :=
    fun site site' hR => ⟨.done (hsite site site' hR).1, hR⟩
  have honScene : ∀ {α α' : Type} {V : α → α' → Prop} {step step'}, Step.Lockstep S V step step' →
      Step.Lockstep R V (Target.onScene step) (Target.onScene step') := fun h =>
    h.on (fun site site' hR => (hsite site site' hR).2) hscene
  -- The target stays as it is throughout; only the scene is followed.
  refine hthis.bind fun t t' ht => (honScene (Sibling.connect_lockstep hc ht database)).bind ?_
  intro sibling sibling' hsibling
  rw [ht.connector_eq, ht.connector_eq']
  refine honScene (Step.Lockstep.ensuring_of_quietly ?_ (Sibling.close_lockstep hc hsibling))
  refine (Sibling.query_lockstep hc hsibling _).bind ?_
  rintro rows _ rfl
  exact Step.lockstep_ofExcept _

theorem scanAll_lockstep_of
    (h : ∀ database, Step.Lockstep R Eq (scan ctx database) (scan ctx database))
    (databases : List String) (known : Known) :
    Step.Lockstep R Eq (scanAll ctx databases known) (scanAll ctx databases known) := by
  induction databases generalizing known with
  | nil => exact Step.lockstep_pure rfl
  | cons database rest ih =>
    refine (h database).attempt.bind ?_
    rintro _ _ (⟨rfl⟩ | fault | note)
    · exact ih _
    · by_cases hfault : fault.isCancellation
      · simp only [hfault, if_true]
        exact Step.lockstep_fail fault
      · simp only [hfault]
        exact ih known
    · exact Step.lockstep_finish (.crashed note)

end

section

variable {c : Connector σ τ}

/-- What every scan keeps is kept by scans one after the other. -/
theorem scanAll_keeps_of {I : Site σ τ → Prop} {ctx : ContextId}
    (h : ∀ database, Step.Keeps I (scan ctx database)) (databases : List String) (known : Known) :
    Step.Keeps I (scanAll ctx databases known) := by
  induction databases generalizing known with
  | nil => exact Step.keeps_pure known
  | cons database rest ih =>
    refine (h database).attempt.bind fun outcome => ?_
    cases outcome with
    | done found => exact ih _
    | failed fault =>
      by_cases hfault : fault.isCancellation
      · simp only [hfault, if_true]
        exact Step.keeps_fail fault
      · simp only [hfault]
        exact ih known
    | crashed note => exact Step.keeps_finish _

theorem scanAll_keeps {lost : List Nat} (ctx : ContextId) (databases : List String)
    (known : Known) : Step.Keeps (InOrder c lost) (scanAll ctx databases known) :=
  scanAll_keeps_of (fun database => scan_keeps ctx database) databases known

theorem scan_lockstep (ctx : ContextId) (database : String) :
    Step.Lockstep (Site.Audits c) Eq (scan ctx database) (scan ctx database) :=
  scan_lockstep_of (c.audited_simulates ctx)
    (fun _ _ hsite => ⟨hsite.target.sameServer, hsite.scene⟩)
    (fun _ _ _ _ hsite hscene => ⟨hsite.target, hscene⟩) database

theorem scanAll_lockstep (ctx : ContextId) (databases : List String) (known : Known) :
    Step.Lockstep (Site.Audits c) Eq (scanAll ctx databases known)
      (scanAll ctx databases known) :=
  scanAll_lockstep_of (fun database => scan_lockstep ctx database) databases known

/-- A run over databases is a tour: each database is visited in order, unless a call crashes or
tells of the end of a context. -/
structure IsTour (databases : List String) (known : Known) (site : Site (Audited σ) (Traced τ))
    (ran : Outcome Known × Site (Audited σ) (Traced τ)) (tour : List Visit) : Prop where
  possible : ∀ v ∈ tour, v.reception.IsPossible site.target.statementTimeout
  visited : tour.map Visit.database <+: databases
  target_eq : ran.2.target = site.target
  record_eq : ran.2.record = site.record ++ tourCalls site.target (openings site.record) tour
  isCrashed_eq : ran.1.isCrashed = crashes (tourCalls site.target (openings site.record) tour)
  complete : cancels (tourCalls site.target (openings site.record) tour) = false →
    ran.1.isCrashed = false →
      tour.map Visit.database = databases ∧ ran.1 = .done (merge tour known)

namespace IsTour

variable {rest : List String} {known : Known} {site after : Site (Audited σ) (Traced τ)}
  {ran : Outcome Known × Site (Audited σ) (Traced τ)} {v : Visit}

theorem nil (known : Known) (site : Site (Audited σ) (Traced τ)) :
    IsTour [] known site (.done known, site) [] where
  possible := fun v hv => by cases hv
  visited := List.nil_prefix
  target_eq := rfl
  record_eq := (List.append_nil _).symm
  isCrashed_eq := rfl
  complete := fun _ _ => ⟨rfl, rfl⟩

/-- The tour is broken off after a visit. -/
theorem single (hpossible : v.reception.IsPossible site.target.statementTimeout)
    (htarget : after.target = site.target)
    (hrecord : after.record = site.record ++ v.calls site.target (openings site.record))
    {outcome : Outcome Known}
    (hcrashed : outcome.isCrashed = crashes (v.calls site.target (openings site.record)))
    (hbroken : outcome.isCrashed = true ∨
      cancels (v.calls site.target (openings site.record)) = true) :
    IsTour (v.database :: rest) known site (outcome, after) [v] where
  possible := by simpa using hpossible
  visited := ⟨rest, rfl⟩
  target_eq := htarget
  record_eq := by simpa [tourCalls] using hrecord
  isCrashed_eq := by simpa [tourCalls] using hcrashed
  complete := by
    intro hlive hcalm
    rw [tourCalls, tourCalls, List.append_nil] at hlive
    obtain hbroken | hbroken := hbroken
    · exact absurd hbroken (by simp [hcalm])
    · exact absurd hbroken (by simp [hlive])

/-- The tour goes on after a visit. -/
theorem cons {tour : List Visit} (hpossible : v.reception.IsPossible site.target.statementTimeout)
    (htarget : after.target = site.target)
    (hrecord : after.record = site.record ++ v.calls site.target (openings site.record))
    (hcalm : crashes (v.calls site.target (openings site.record)) = false)
    (h : IsTour rest (note v.database (v.found?.getD []) known) after ran tour) :
    IsTour (v.database :: rest) known site ran (v :: tour) := by
  have hopenings : openings after.record =
      openings site.record + openings (v.calls site.target (openings site.record)) := by
    rw [hrecord, Accounts.openings_append]
  obtain ⟨hpossible', hvisited, htarget', hrecord', hcrashed, hcomplete⟩ := h
  rw [htarget] at hpossible' htarget' hrecord' hcrashed hcomplete
  rw [hopenings] at hrecord' hcrashed hcomplete
  refine ⟨?_, ?_, htarget', ?_, ?_, ?_⟩
  · intro w hw
    obtain rfl | hw := List.mem_cons.1 hw
    · exact hpossible
    · exact hpossible' w hw
  · exact List.prefix_cons_iff.2 (Or.inr ⟨_, rfl, hvisited⟩)
  · rw [hrecord', hrecord, tourCalls, List.append_assoc]
  · rw [hcrashed, tourCalls, crashes_append, hcalm, Bool.false_or]
  · intro hlive hnot
    rw [tourCalls, cancels_append, Bool.or_eq_false_iff] at hlive
    obtain ⟨hdatabases, houtcome⟩ := hcomplete hlive.2 hnot
    exact ⟨by rw [List.map_cons, hdatabases], houtcome⟩

end IsTour

theorem scanAll_spec (ctx : ContextId) (databases : List String) (known : Known)
    (site : Site (Audited σ) (Traced τ)) (h : site.target.connector = c.audited) :
    ∃ tour, IsTour databases known site (scanAll ctx databases known site) tour := by
  induction databases generalizing known site with
  | nil => exact ⟨[], IsTour.nil known site⟩
  | cons database rest ih =>
    obtain ⟨v, rfl, hpossible, htarget, hrecord, houtcome⟩ := scan_spec h ctx database
    rcases hscan : scan ctx v.database site with ⟨outcome, after⟩
    rw [hscan] at htarget hrecord houtcome
    obtain rfl : outcome = v.outcome := houtcome
    have hconnector : after.target.connector = c.audited := by
      rw [show after.target = site.target from htarget, h]
    rw [scanAll_cons hscan]
    have hcrashed := v.isCrashed_outcome site.target (openings site.record)
    -- A visit without a crash found something, or failed; behind the end of the context alone the
    -- tour stops there.
    rcases hcalm : crashes (v.calls site.target (openings site.record)) with _ | _
    · obtain ⟨found, hfound, houtcome⟩ | ⟨hfound, fault, houtcome, hlive⟩ :=
        v.outcome_of_calm hpossible hcalm
      · obtain ⟨tour, htour⟩ := ih (note v.database found known) after hconnector
        refine ⟨v :: tour, ?_⟩
        rw [houtcome]
        refine IsTour.cons hpossible htarget hrecord hcalm ?_
        rw [hfound]
        exact htour
      · rw [houtcome]
        rcases hfault : fault.isCancellation with _ | _
        · obtain ⟨tour, htour⟩ := ih known after hconnector
          refine ⟨v :: tour, ?_⟩
          simp only [hfault]
          refine IsTour.cons hpossible htarget hrecord hcalm ?_
          rw [hfound]
          exact htour
        · refine ⟨[v], ?_⟩
          simp only [hfault, if_true]
          refine IsTour.single hpossible htarget hrecord ?_ (Or.inr ?_)
          · rw [hcalm]
            rfl
          · rcases hcancels : cancels (v.calls site.target (openings site.record)) with _ | _
            · rw [hlive hcancels] at hfault
              cases hfault
            · rfl
    · rw [hcalm] at hcrashed
      rcases houtcome : v.outcome with found | fault | note <;> rw [houtcome] at hcrashed
      · simp at hcrashed
      · simp at hcrashed
      · exact ⟨[v], IsTour.single hpossible htarget hrecord hcalm.symm (Or.inl rfl)⟩

end

end PgVitals.Extensions

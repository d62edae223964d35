import PgVitals.Proofs.Server.Audit
import PgVitals.Proofs.Server.Simulation

/-!
# The audit changes nothing

A target under audit and the same target without run in lockstep: every operation ends in the same
way with the same values, and leaves the same contexts, server and locks.  So whatever is said of
the record of an audited run is said of the calls of the plain run.
-/

namespace PgVitals

variable {σ τ : Type}

/-! ## What corresponds -/

/-- The scene is the plain one with a record. -/
def Scene.Audits (s : Scene (Audited σ)) (s' : Scene σ) : Prop := s.plain = s'

/-- The session is the plain one with its origin. -/
def Traced.Audits (traced : Traced τ) (session : τ) : Prop := traced.session = session

/-- The hold without the origin of its session. -/
def Hold.plain : Hold (Traced τ) → Hold τ
  | owned traced => owned traced.session
  | lent shared => lent ⟨shared.session.session, shared.lock⟩

/-- The target is the plain one under audit. -/
structure Target.Audits (c : Connector σ τ) (t : Target (Audited σ) (Traced τ)) (t' : Target σ τ) :
    Prop where
  connector_eq : t.connector = c.audited
  connector_eq' : t'.connector = c
  descriptor_eq : t.descriptor = t'.descriptor
  statementTimeout_eq : t.statementTimeout = t'.statementTimeout
  hold_eq : t.hold.map Hold.plain = t'.hold
  version_eq : t.version = t'.version

/-- The site is the plain one under audit. -/
structure Site.Audits (c : Connector σ τ) (site : Site (Audited σ) (Traced τ))
    (site' : Site σ τ) : Prop where
  target : site.target.Audits c site'.target
  scene : site.scene.Audits site'.scene

theorem Target.audits_audited (t : Target σ τ) : t.audited.Audits t.connector t := by
  refine ⟨rfl, rfl, rfl, rfl, ?_, rfl⟩
  obtain ⟨connector, descriptor, timeout, hold, version⟩ := t
  obtain _ | (session | shared) := hold <;> rfl

theorem Site.audits_audited (site : Site σ τ) : site.audited.Audits site.target.connector site :=
  ⟨site.target.audits_audited, rfl⟩

/-! ## Calls -/

section

variable {c : Connector σ τ} {α : Type}

theorem Scene.recording_lockstep (call : Step (Scene σ) α) (entry : Outcome α → Event) :
    Step.Lockstep Scene.Audits Eq (recording call entry) call := by
  rintro s _ rfl
  exact ⟨Outcome.related_eq_iff.2 rfl, rfl⟩

theorem Connector.query_lockstep (c : Connector σ τ) {traced : Traced τ} {session : τ}
    (h : traced.Audits session) (ctx : ContextId) (sql : String) :
    Step.Lockstep Scene.Audits Eq (c.audited.query traced ctx sql) (c.query session ctx sql) := by
  obtain rfl : traced.session = session := h
  exact Scene.recording_lockstep _ _

theorem Connector.close_lockstep (c : Connector σ τ) {traced : Traced τ} {session : τ}
    (h : traced.Audits session) :
    Step.Lockstep Scene.Audits Eq (c.audited.close traced) (c.close session) := by
  obtain rfl : traced.session = session := h
  exact Scene.recording_lockstep _ _

theorem Connector.connect_lockstep (c : Connector σ τ) (ctx : ContextId) (descriptor : String) :
    Step.Lockstep Scene.Audits Traced.Audits (c.audited.connect ctx descriptor)
      (c.connect ctx descriptor) := by
  rintro s _ rfl
  refine ⟨?_, rfl⟩
  change Outcome.Related _ ((c.connect ctx descriptor s.plain).1.map _) _
  cases (c.connect ctx descriptor s.plain).1 with
  | done session => exact .done rfl
  | failed fault => exact .failed fault
  | crashed note => exact .crashed note

/-- A connector under audit simulates the one without. -/
theorem Connector.audited_simulates (c : Connector σ τ) (ctx : ContextId) :
    c.audited.Simulates c ctx Scene.Audits Traced.Audits where
  connect := c.connect_lockstep ctx
  query := fun h sql => c.query_lockstep h ctx sql
  close := fun h => (c.close_lockstep h).quietly

theorem Target.Audits.sameServer {t : Target (Audited σ) (Traced τ)} {t' : Target σ τ}
    (h : t.Audits c t') : t.SameServer c.audited c t' :=
  ⟨h.connector_eq, h.connector_eq', h.descriptor_eq, h.statementTimeout_eq⟩

theorem Shared.use_lockstep {shared : Shared (Traced τ)} {shared' : Shared τ}
    (hlock : shared.lock = shared'.lock)
    {call : Traced τ → Step (Scene (Audited σ)) α} {call' : τ → Step (Scene σ) α}
    (h : Step.Lockstep Scene.Audits Eq (call shared.session) (call' shared'.session)) :
    Step.Lockstep Scene.Audits Eq (shared.use call) (shared'.use call') := by
  rintro s _ rfl
  -- Both sides hold the same lock, so they find it broken together and break it together.
  have hbroken : shared.isBroken s = shared'.isBroken s.plain := by
    rw [isBroken, isBroken, hlock]
    rfl
  obtain ⟨hended, hafter⟩ := h s s.plain rfl
  rw [use, use, hbroken]
  split
  · exact ⟨.done rfl, rfl⟩
  · rcases hrun : call shared.session s with ⟨outcome, after⟩
    rcases hrun' : call' shared'.session s.plain with ⟨outcome', after'⟩
    rw [hrun, hrun'] at hended hafter
    obtain rfl : after.plain = after' := hafter
    cases hended with
    | done h => exact ⟨.done (congrArg some h), rfl⟩
    | failed fault => exact ⟨.failed fault, rfl⟩
    | crashed note =>
      refine ⟨.crashed note, ?_⟩
      rw [hlock]
      rfl

end

/-! ## Targets -/

namespace Target

variable {c : Connector σ τ} {α α' : Type} {V : α → α' → Prop}

theorem onScene_lockstep {step : Step (Scene (Audited σ)) α} {step' : Step (Scene σ) α'}
    (h : Step.Lockstep Scene.Audits V step step') :
    Step.Lockstep (Site.Audits c) V (onScene step) (onScene step') :=
  h.on (fun _ _ hsite => hsite.scene) fun _ _ _ _ hsite hscene => ⟨hsite.target, hscene⟩

theorem this_lockstep : Step.Lockstep (Site.Audits c) (Target.Audits c) this this :=
  fun _ _ hsite => ⟨.done hsite.target, hsite⟩

theorem take_lockstep {hold : Option (Hold (Traced τ))} {hold' : Option (Hold τ)}
    (h : hold.map Hold.plain = hold') :
    Step.Lockstep (Site.Audits c) Eq (take hold) (take hold') :=
  Step.lockstep_update fun _ _ hsite => ⟨{ hsite.target with hold_eq := h }, hsite.scene⟩

theorem query_lockstep (ctx : ContextId) (sql : String) :
    Step.Lockstep (Site.Audits c) Eq (query ctx sql) (query ctx sql) := by
  refine this_lockstep.bind fun t t' ht => ?_
  rw [ht.connector_eq, ht.connector_eq', ← ht.hold_eq]
  rcases t.hold with _ | (traced | shared)
  · exact Step.lockstep_fail _
  · exact onScene_lockstep (c.query_lockstep rfl ctx sql)
  · have huse : Step.Lockstep Scene.Audits Eq
        (shared.use fun traced => c.audited.query traced ctx sql)
        (Shared.use ⟨shared.session.session, shared.lock⟩ fun session =>
          c.query session ctx sql) :=
      Shared.use_lockstep rfl (c.query_lockstep rfl ctx sql)
    refine (onScene_lockstep huse).bind ?_
    rintro rows _ rfl
    cases rows with
    | some rows => exact Step.lockstep_pure rfl
    | none => exact Step.lockstep_fail _

theorem configure_lockstep (ctx : ContextId) :
    Step.Lockstep (Site.Audits c) Eq (configure ctx) (configure ctx) :=
  configure_lockstep_of (fun sql => query_lockstep ctx sql)
    (fun _ _ hsite => hsite.target.statementTimeout_eq)
    fun _ _ _ hsite => ⟨{ hsite.target with version_eq := rfl }, hsite.scene⟩

theorem close_lockstep : Step.Lockstep (Site.Audits c) Eq close close := by
  refine this_lockstep.bind fun t t' ht => (take_lockstep rfl).bind fun _ _ _ => ?_
  rw [ht.connector_eq, ht.connector_eq', ← ht.hold_eq]
  rcases t.hold with _ | (traced | shared)
  · exact Step.lockstep_pure rfl
  · exact onScene_lockstep (c.close_lockstep rfl)
  · exact Step.lockstep_pure rfl

theorem setup_lockstep (ctx : ContextId) :
    Step.Lockstep (Site.Audits c) Eq (setup ctx) (setup ctx) := by
  refine this_lockstep.bind fun t t' ht => ?_
  rw [ht.connector_eq, ht.connector_eq', ht.descriptor_eq]
  refine (onScene_lockstep (c.connect_lockstep ctx _)).bind ?_
  rintro traced _ rfl
  exact (take_lockstep rfl).bind fun _ _ _ => (configure_lockstep ctx).undoing close_lockstep

theorem setupShared_lockstep (ctx : ContextId) (shared : Shared (Traced τ)) :
    Step.Lockstep (Site.Audits c) Eq (setupShared ctx shared)
      (setupShared ctx ⟨shared.session.session, shared.lock⟩) :=
  (take_lockstep rfl).bind fun _ _ _ => (configure_lockstep ctx).undoing (take_lockstep rfl)

theorem release_lockstep : Step.Lockstep (Site.Audits c) Eq release release :=
  (Step.lockstep_pure rfl).ensuring close_lockstep

end Target

end PgVitals

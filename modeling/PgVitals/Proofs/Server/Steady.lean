import PgVitals.Proofs.Collector.Anatomy
import PgVitals.Proofs.Target.Opening

/-!
# Servers that answer the same whenever they are asked

A connector is steady in a world of scenes when what its calls come to depends on nothing but the
descriptor, and on the database of a session and the statement, and when no call leaves the world;
the world may consist, for instance, of the scenes in which a context is open.  Over a steady
connector targets that are set up alike cannot be told apart, whatever was asked before.
-/

namespace PgVitals

variable {σ τ δ : Type} {c : Connector σ τ} {ctx : ContextId} {world : Scene σ → Prop}

/-- What the calls of a connector come to in every scene of a world.  The closing of a session may
fail in any way; only a crash of it counts. -/
structure Connector.Steady (c : Connector σ τ) (ctx : ContextId) (world : Scene σ → Prop)
    (δ : Type) where
  database : τ → δ
  opens : String → Outcome δ
  answers : δ → String → Outcome (List Row)
  closes : δ → Outcome Unit
  connect : ∀ {s}, world s → ∀ descriptor,
    (c.connect ctx descriptor s).1.map database = opens descriptor ∧
      world (c.connect ctx descriptor s).2
  query : ∀ {s}, world s → ∀ session sql,
    (c.query session ctx sql s).1 = answers (database session) sql ∧
      world (c.query session ctx sql s).2
  close : ∀ {s}, world s → ∀ session,
    ((c.close session).quietly s).1 = closes (database session) ∧
      world ((c.close session).quietly s).2

namespace Connector.Steady

/-- Two scenes of the world. -/
def Within (world : Scene σ → Prop) (s s' : Scene σ) : Prop := world s ∧ world s'

/-- A steady connector simulates itself, from one scene of its world to any other. -/
theorem simulates (steady : c.Steady ctx world δ) :
    c.Simulates c ctx (Within world)
      (fun session session' => steady.database session = steady.database session') where
  connect := by
    intro descriptor s s' ⟨hs, hs'⟩
    obtain ⟨hopens, hafter⟩ := steady.connect hs descriptor
    obtain ⟨hopens', hafter'⟩ := steady.connect hs' descriptor
    refine ⟨Outcome.related_of_map_eq (hopens.trans hopens'.symm), hafter, hafter'⟩
  query := by
    intro session session' hsession sql s s' ⟨hs, hs'⟩
    obtain ⟨hanswer, hafter⟩ := steady.query hs session sql
    obtain ⟨hanswer', hafter'⟩ := steady.query hs' session' sql
    rw [← hsession] at hanswer'
    exact ⟨Outcome.related_eq_iff.2 (hanswer.trans hanswer'.symm), hafter, hafter'⟩
  close := by
    intro session session' hsession s s' ⟨hs, hs'⟩
    obtain ⟨hclosing, hafter⟩ := steady.close hs session
    obtain ⟨hclosing', hafter'⟩ := steady.close hs' session'
    rw [← hsession] at hclosing'
    exact ⟨Outcome.related_eq_iff.2 (hclosing.trans hclosing'.symm), hafter, hafter'⟩

/-! ## Targets -/

/-- The targets are set up alike, on sessions to the same database. -/
structure Alike (steady : c.Steady ctx world δ) (t t' : Target σ τ) : Prop where
  sameServer : t.SameServer c c t'
  version_eq : t.version = t'.version
  hold : ∃ session session', t.hold = some (.owned session) ∧ t'.hold = some (.owned session') ∧
    steady.database session = steady.database session'

/-- Sites of the world with targets that are set up alike. -/
structure Sites (steady : c.Steady ctx world δ) (site site' : Site σ τ) : Prop where
  alike : steady.Alike site.target site'.target
  within : Within world site.scene site'.scene

variable {steady : c.Steady ctx world δ} {t t' : Target σ τ} {site site' : Site σ τ}

theorem Alike.left (h : steady.Alike t t') : steady.Alike t t := by
  obtain ⟨session, -, hhold, -, -⟩ := h.hold
  exact ⟨⟨h.sameServer.connector_eq, h.sameServer.connector_eq, rfl, rfl⟩, rfl,
    session, session, hhold, hhold, rfl⟩

theorem Alike.symm (h : steady.Alike t t') : steady.Alike t' t := by
  obtain ⟨session, session', hhold, hhold', hdatabase⟩ := h.hold
  exact ⟨⟨h.sameServer.connector_eq', h.sameServer.connector_eq, h.sameServer.descriptor_eq.symm,
    h.sameServer.statementTimeout_eq.symm⟩, h.version_eq.symm,
    session', session, hhold', hhold, hdatabase.symm⟩

/-- The targets stay what they are, in scenes of the world. -/
def Stand (world : Scene σ → Prop) (t t' : Target σ τ) (site site' : Site σ τ) : Prop :=
  (site.target = t ∧ site'.target = t') ∧ Within world site.scene site'.scene

theorem onScene_lockstep {α α' : Type} {V : α → α' → Prop} {step : Step (Scene σ) α}
    {step' : Step (Scene σ) α'} (h : Step.Lockstep (Within world) V step step') :
    Step.Lockstep (Stand world t t') V (Target.onScene step) (Target.onScene step') :=
  h.on (fun _ _ hsite => hsite.2) fun _ _ _ _ hsite hscene => ⟨hsite.1, hscene⟩

/-- A statement is answered alike, and changes nothing for those that come later. -/
theorem query_lockstep (h : steady.Alike t t') (sql : String) :
    Step.Lockstep (Stand world t t') Eq (Target.query ctx sql) (Target.query ctx sql) := by
  obtain ⟨session, session', hhold, hhold', hdatabase⟩ := h.hold
  rintro site site' ⟨⟨rfl, rfl⟩, hwithin⟩
  rw [Target.query_of_owned hhold, Target.query_of_owned hhold', h.sameServer.connector_eq,
    h.sameServer.connector_eq']
  exact onScene_lockstep (steady.simulates.query hdatabase sql) site site' ⟨⟨rfl, rfl⟩, hwithin⟩

theorem scan_lockstep (h : steady.Alike t t') (database : String) :
    Step.Lockstep (Stand world t t') Eq (Extensions.scan ctx database)
      (Extensions.scan ctx database) := by
  refine Extensions.scan_lockstep_of steady.simulates ?_ ?_ database
  · rintro site site' ⟨⟨rfl, rfl⟩, hwithin⟩
    exact ⟨h.sameServer, hwithin⟩
  · rintro site site' s s' ⟨htargets, -⟩ hwithin
    exact ⟨htargets, hwithin⟩

/-- A task of the program comes to the same on targets that are set up alike. -/
theorem task_lockstep {α : Type} (h : steady.Alike t t') {task task' : Task σ τ α}
    (hmatches : Task.Matches ctx task task') : Task.Lockstep (Stand world t t') Eq task task' := by
  refine hmatches.lockstep ?_ (fun sql => query_lockstep h sql)
    (Extensions.scanAll_lockstep_of fun database => scan_lockstep h database)
  rintro site site' ⟨⟨rfl, rfl⟩, -⟩
  exact h.version_eq

/-! ## Setting up -/

theorem query_sites (sql : String) :
    Step.Lockstep steady.Sites Eq (Target.query ctx sql) (Target.query ctx sql) := by
  intro site site' h
  obtain ⟨hended, ⟨htarget, htarget'⟩, hwithin⟩ :=
    query_lockstep h.alike sql site site' ⟨⟨rfl, rfl⟩, h.within⟩
  refine ⟨hended, ?_, hwithin⟩
  rw [htarget, htarget']
  exact h.alike

theorem configure_sites :
    Step.Lockstep steady.Sites Eq (Target.configure ctx) (Target.configure ctx) :=
  Target.configure_lockstep_of query_sites
    (fun _ _ h => h.alike.sameServer.statementTimeout_eq)
    fun _ _ _ h => ⟨⟨⟨h.alike.sameServer.connector_eq, h.alike.sameServer.connector_eq',
      h.alike.sameServer.descriptor_eq, h.alike.sameServer.statementTimeout_eq⟩, rfl,
      h.alike.hold⟩, h.within⟩

/-- Two copies of a template are set up alike, or neither is. -/
inductive Copies (steady : c.Steady ctx world δ) (ran ran' : Outcome (Target σ τ) × Scene σ) :
    Prop where
  | done {t t' : Target σ τ} {s s' : Scene σ} (hran : ran = (.done t, s))
    (hran' : ran' = (.done t', s')) (alike : steady.Alike t t') (within : Within world s s') :
    Copies steady ran ran'
  | notDone (hran : ran.1.isDone = false) (hran' : ran'.1.isDone = false) : Copies steady ran ran'

theorem openCopy_copies {template : Target σ τ} (htemplate : template.connector = c)
    {s s' : Scene σ} (h : Within world s s') :
    steady.Copies (Target.openCopy template ctx s) (Target.openCopy template ctx s') := by
  obtain ⟨hconnected, hopened⟩ := steady.simulates.connect template.descriptor.text s s' h
  rcases hrun : c.connect ctx template.descriptor.text s with ⟨ending, opened⟩
  rcases hrun' : c.connect ctx template.descriptor.text s' with ⟨ending', opened'⟩
  rw [hrun, hrun'] at hconnected hopened
  have hconnect : template.connector.connect ctx template.descriptor.text s = (ending, opened) := by
    rw [htemplate, hrun]
  have hconnect' : template.connector.connect ctx template.descriptor.text s' =
      (ending', opened') := by
    rw [htemplate, hrun']
  -- Either both attempts open a session or neither does, and then nothing is set up.
  cases hdone : ending.isDone with
  | false =>
    have hdone' : ending'.isDone = false := by rw [← hconnected.isDone_eq, hdone]
    refine .notDone ?_ ?_
    · rw [Target.isDone_openCopy, Target.setup_of_refused hdone hconnect, Outcome.isDone_map, hdone]
    · rw [Target.isDone_openCopy, Target.setup_of_refused hdone' hconnect', Outcome.isDone_map,
        hdone']
  | true =>
    obtain ⟨session, rfl⟩ := Outcome.exists_of_isDone hdone
    cases hconnected with
    | @done _ session' hdatabase =>
      let site : Site σ τ := ⟨{ template.template with hold := some (.owned session) }, opened⟩
      let site' : Site σ τ := ⟨{ template.template with hold := some (.owned session') }, opened'⟩
      have hsites : steady.Sites site site' :=
        ⟨⟨⟨htemplate, htemplate, rfl, rfl⟩, rfl, session, session', rfl, rfl, hdatabase⟩, hopened⟩
      have hsetup : Target.setup ctx ⟨template.template, s⟩ =
          ((Target.configure ctx).undoing Target.close) site := Target.setup_of_done hconnect
      have hsetup' : Target.setup ctx ⟨template.template, s'⟩ =
          ((Target.configure ctx).undoing Target.close) site' := Target.setup_of_done hconnect'
      obtain ⟨hconfigured, hafter⟩ := configure_sites site site' hsites
      cases hdone : (Target.configure ctx site).1.isDone with
      | false =>
        refine .notDone ?_ ?_
        · rw [Target.isDone_openCopy, hsetup, Step.isDone_undoing, hdone]
        · rw [Target.isDone_openCopy, hsetup', Step.isDone_undoing, ← hconfigured.isDone_eq, hdone]
      | true =>
        rcases hran : Target.configure ctx site with ⟨outcome, after⟩
        rcases hran' : Target.configure ctx site' with ⟨outcome', after'⟩
        rw [hran, hran'] at hconfigured hafter
        rw [hran] at hdone
        obtain ⟨value, rfl⟩ := Outcome.exists_of_isDone hdone
        obtain rfl : .done value = outcome' := Outcome.related_eq_iff.1 hconfigured
        exact .done (Target.openCopy_of_done (hsetup.trans (Step.undoing_of_done hran)))
          (Target.openCopy_of_done (hsetup'.trans (Step.undoing_of_done hran'))) hafter.alike
          hafter.within

end Connector.Steady

end PgVitals

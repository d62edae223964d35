import PgVitals.Proofs.Lockstep
import PgVitals.Target

/-!
# Targets in lockstep

Two connectors simulate each other when their calls run in lockstep over related scenes and related
sessions.  What a target does is made of such calls, so it runs in lockstep as well: here for the
questions that set a target up, once the statements do, and for siblings.
-/

namespace PgVitals

variable {σ τ σ' τ' : Type}

/-- The calls of two connectors run in lockstep; of the closing of a session only a crash counts. -/
structure Connector.Simulates (c : Connector σ τ) (c' : Connector σ' τ') (ctx : ContextId)
    (S : Scene σ → Scene σ' → Prop) (T : τ → τ' → Prop) : Prop where
  connect : ∀ descriptor, Step.Lockstep S T (c.connect ctx descriptor) (c'.connect ctx descriptor)
  query : ∀ {session session'}, T session session' → ∀ sql,
    Step.Lockstep S Eq (c.query session ctx sql) (c'.query session' ctx sql)
  close : ∀ {session session'}, T session session' →
    Step.Lockstep S Eq (c.close session).quietly (c'.close session').quietly

/-- The targets are for the same server, each over its own connector. -/
structure Target.SameServer (c : Connector σ τ) (c' : Connector σ' τ') (t : Target σ τ)
    (t' : Target σ' τ') : Prop where
  connector_eq : t.connector = c
  connector_eq' : t'.connector = c'
  descriptor_eq : t.descriptor = t'.descriptor
  statementTimeout_eq : t.statementTimeout = t'.statementTimeout

/-! ## Targets -/

namespace Target

section

variable {R : Site σ τ → Site σ' τ' → Prop} {ctx : ContextId}

theorem execute_lockstep_of
    (hquery : ∀ sql, Step.Lockstep R Eq (query ctx sql) (query ctx sql)) (sql : String) :
    Step.Lockstep R Eq (execute ctx sql) (execute ctx sql) :=
  (hquery sql).bind fun _ _ _ => Step.lockstep_pure rfl

theorem singleText_lockstep_of
    (hquery : ∀ sql, Step.Lockstep R Eq (query ctx sql) (query ctx sql)) (sql : String) :
    Step.Lockstep R Eq (singleText ctx sql) (singleText ctx sql) := by
  refine (hquery sql).bind ?_
  rintro rows _ rfl
  cases rows with
  | nil => exact Step.lockstep_pure rfl
  | cons row rest => exact Step.lockstep_ofExcept _

theorem detectVersion_lockstep_of
    (hquery : ∀ sql, Step.Lockstep R Eq (query ctx sql) (query ctx sql)) :
    Step.Lockstep R Eq (detectVersion ctx) (detectVersion ctx) := by
  refine (singleText_lockstep_of hquery _).bind ?_
  rintro verbose _ rfl
  rcases verbose.bind ServerVersion.readVerbose? with _ | version
  · refine (singleText_lockstep_of hquery _).bind ?_
    rintro bare _ rfl
    rcases bare.bind ServerVersion.readBare? with _ | version
    · exact Step.lockstep_fail _
    · exact Step.lockstep_pure rfl
  · exact Step.lockstep_pure rfl

/-- Targets with the same timeout are configured in lockstep if their statements are. -/
theorem configure_lockstep_of
    (hquery : ∀ sql, Step.Lockstep R Eq (query ctx sql) (query ctx sql))
    (htimeout : ∀ site site', R site site' →
      site.target.statementTimeout = site'.target.statementTimeout)
    (hversion : ∀ site site' version, R site site' →
      R { site with target := { site.target with version := version } }
        { site' with target := { site'.target with version := version } }) :
    Step.Lockstep R Eq (configure ctx) (configure ctx) := by
  have hdetect : Step.Lockstep R Eq
      (detectVersion ctx >>= fun version =>
        Step.update fun site => { site with target := { site.target with version := version } })
      (detectVersion ctx >>= fun version =>
        Step.update fun site =>
          { site with target := { site.target with version := version } }) := by
    refine (detectVersion_lockstep_of hquery).bind ?_
    rintro version _ rfl
    exact Step.lockstep_update fun site site' hR => hversion site site' version hR
  have hthis : Step.Lockstep R (fun t t' => t.statementTimeout = t'.statementTimeout)
      (this : Step (Site σ τ) (Target σ τ)) (this : Step (Site σ' τ') (Target σ' τ')) :=
    fun site site' hR => ⟨.done (htimeout site site' hR), hR⟩
  refine hthis.bind fun t t' ht => ?_
  rw [ht]
  split
  · exact ((execute_lockstep_of hquery _).mapFault timeoutFault).bind fun _ _ _ => hdetect
  · exact hdetect

end

end Target

/-! ## Siblings -/

/-- Siblings for the same database, each with a session or both without one. -/
structure Sibling.Simulates (T : τ → τ' → Prop) (sibling : Sibling τ) (sibling' : Sibling τ') :
    Prop where
  database_eq : sibling.database = sibling'.database
  session : Option.Rel T sibling.session sibling'.session

namespace Sibling

variable {c : Connector σ τ} {c' : Connector σ' τ'} {ctx : ContextId}
  {S : Scene σ → Scene σ' → Prop} {T : τ → τ' → Prop}

theorem query_lockstep (hc : c.Simulates c' ctx S T) {sibling : Sibling τ} {sibling' : Sibling τ'}
    (h : sibling.Simulates T sibling') (sql : String) :
    Step.Lockstep S Eq (sibling.query c ctx sql) (sibling'.query c' ctx sql) := by
  obtain ⟨database, session⟩ := sibling
  obtain ⟨database', session'⟩ := sibling'
  obtain ⟨rfl, hsession⟩ : database = database' ∧ Option.Rel T session session' :=
    ⟨h.database_eq, h.session⟩
  cases hsession with
  | some hsession => exact hc.query hsession sql
  | none => exact Step.lockstep_fail _

theorem close_lockstep (hc : c.Simulates c' ctx S T) {sibling : Sibling τ} {sibling' : Sibling τ'}
    (h : sibling.Simulates T sibling') :
    Step.Lockstep S Eq (sibling.close c).quietly (sibling'.close c').quietly := by
  obtain ⟨database, session⟩ := sibling
  obtain ⟨database', session'⟩ := sibling'
  have hsession : Option.Rel T session session' := h.session
  cases hsession with
  | some hsession => exact hc.close hsession
  | none => exact (Step.lockstep_pure rfl).quietly

theorem connect_lockstep (hc : c.Simulates c' ctx S T) {t : Target σ τ} {t' : Target σ' τ'}
    (h : t.SameServer c c' t') (database : String) :
    Step.Lockstep S (Simulates T) (connect t ctx database) (connect t' ctx database) := by
  rw [connect, connect, h.connector_eq, h.connector_eq', h.descriptor_eq, h.statementTimeout_eq]
  refine (hc.connect _).bind fun session session' hsession => ?_
  have hsibling : Simulates T ⟨database, some session⟩ ⟨database, some session'⟩ :=
    ⟨rfl, .some hsession⟩
  split
  · -- The directive is attempted, so that the session of a refused one can be closed.
    refine (((hc.query hsession _).mapFault timeoutFault).attempt).bind ?_
    rintro _ _ (_ | fault | note)
    · exact Step.lockstep_pure hsibling
    · exact (Step.lockstep_fail fault).ensuring_of_quietly (hc.close hsession)
    · exact (Step.lockstep_finish (.crashed note)).ensuring_of_quietly (hc.close hsession)
  · exact Step.lockstep_pure hsibling

end Sibling

end PgVitals

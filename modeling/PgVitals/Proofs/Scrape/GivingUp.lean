import PgVitals.Proofs.Scrape.Isolation
import PgVitals.Proofs.Server.Plain
import PgVitals.Server.Script

/-!
# Why a scrape is given up

A scrape fails only when its target cannot be set up.  The faults meant for that are the fatal ones
of a target and those of a context that ended.  The timeout is always sent so that its failure is
one of them.  The questions for the version are not: the fault of a statement, or of a row without
columns, leaves the setting up as it is.  So the record of the calls tells exactly when a scrape is
given up for a fault of another kind.
-/

namespace PgVitals

variable {σ τ α β : Type}

/-! ## Faults for which a scrape is given up -/

/-- Whether the fault is fatal to the target or comes from the end of the context. -/
def Fault.isClassified (fault : Fault) : Bool := fault.isInstanceFatal || fault.isCancellation

/-- Whether the outcome is a fault of neither kind. -/
def Outcome.isUnclassified : Outcome α → Bool
  | failed fault => !fault.isClassified
  | _ => false

namespace Event

/-- Whether the statement is one of the two questions for the version. -/
def asksVersion (sql : String) : Bool := sql = versionStatement || sql = serverVersionStatement

/-- Whether no session could be opened, or a question for the version failed, with a fault of
neither kind, or the question was answered with a first row without columns. -/
def isUnclassified : Event → Bool
  | connect _ (.failed fault) => !fault.isClassified
  | query _ sql (.failed fault) => asksVersion sql && !fault.isClassified
  | query _ sql (.done (row :: _)) => asksVersion sql && row.isEmpty
  | _ => false

end Event

theorem isClassified_timeoutFault (fault : Fault) : (timeoutFault fault).isClassified = true := by
  rw [timeoutFault]
  split
  · rename_i h
    rw [Fault.isClassified, h, Bool.or_true]
  · rfl

theorem Outcome.isUnclassified_mapFault_timeoutFault (outcome : Outcome α) :
    (outcome.mapFault timeoutFault).isUnclassified = false := by
  cases outcome with
  | done value => rfl
  | crashed note => rfl
  | failed fault =>
    change (!(timeoutFault fault).isClassified) = false
    rw [isClassified_timeoutFault]
    rfl

theorem Outcome.isCrashed_ofExcept (result : Except Fault α) :
    (Outcome.ofExcept result).isCrashed = false := by
  cases result <;> rfl

/-- The first column can be read unless the row has none. -/
theorem Outcome.isUnclassified_firstColumn (row : Row) :
    (Outcome.ofExcept (row.text 0)).isUnclassified = row.isEmpty := by
  obtain ⟨_ | ⟨cell, cells⟩⟩ := row <;> rfl

theorem Event.asksVersion_timeoutStatement (timeout : Nat) :
    asksVersion (timeoutStatement timeout) = false := by
  have hverbose : versionStatement ≠ timeoutStatement timeout :=
    ne_timeoutStatement (by decide) timeout
  have hbare : serverVersionStatement ≠ timeoutStatement timeout :=
    ne_timeoutStatement (by decide) timeout
  rw [asksVersion, decide_eq_false hverbose.symm, decide_eq_false hbare.symm]
  rfl

/-! ## Steps that tell in the record how they end -/

/-- The step keeps the session, and what it adds to the record tells whether it crashes and whether
it fails with a fault of neither kind. -/
def Telling (c : Connector σ τ) (step : Step (Site (Audited σ) (Traced τ)) α) : Prop :=
  ∀ site, Ready c site → Ready c (step site).2 ∧
    ∃ events, (step site).2.record = site.record ++ events ∧
      crashes events = (step site).1.isCrashed ∧
      events.any Event.isUnclassified = (step site).1.isUnclassified

namespace Telling

variable {c : Connector σ τ}

theorem pure (value : α) : Telling c (Pure.pure value : Step (Site (Audited σ) (Traced τ)) α) :=
  fun _ h => ⟨h, [], (List.append_nil _).symm, rfl, rfl⟩

theorem fail {fault : Fault} (hfault : fault.isClassified = true) :
    Telling c (Step.fail fault : Step (Site (Audited σ) (Traced τ)) α) := by
  intro site h
  refine ⟨h, [], (List.append_nil _).symm, rfl, ?_⟩
  change false = !fault.isClassified
  rw [hfault]
  rfl

theorem bind {step : Step (Site (Audited σ) (Traced τ)) α}
    {next : α → Step (Site (Audited σ) (Traced τ)) β} (h : Telling c step)
    (hnext : ∀ value, Telling c (next value)) : Telling c (step >>= next) := by
  intro site hsite
  obtain ⟨hready, events, hrecord, hcrash, hunclassified⟩ := h site hsite
  rcases hrun : step site with ⟨value | fault | note, after⟩ <;>
    rw [hrun] at hready hrecord hcrash hunclassified
  · rw [Step.bind_of_done hrun]
    obtain ⟨hready', events', hrecord', hcrash', hunclassified'⟩ := hnext value after hready
    refine ⟨hready', events ++ events', ?_, ?_, ?_⟩
    · rw [hrecord', hrecord, List.append_assoc]
    · rw [crashes_append, hcrash, hcrash']
      rfl
    · rw [List.any_append, hunclassified, hunclassified']
      rfl
  · rw [Step.bind_of_failed hrun]
    exact ⟨hready, events, hrecord, hcrash, hunclassified⟩
  · rw [Step.bind_of_crashed hrun]
    exact ⟨hready, events, hrecord, hcrash, hunclassified⟩

end Telling

namespace Target

variable {c : Connector σ τ}

/-! ## Setting a target up -/

/-- The timeout is sent so that its failure is of one of the two kinds. -/
theorem directive_telling (ctx : ContextId) (timeout : Nat) :
    Telling c ((execute ctx (timeoutStatement timeout)).mapFault timeoutFault) := by
  intro site h
  obtain ⟨hready, origin, hrecord⟩ := query_of_ready h ctx (timeoutStatement timeout)
  have hexecute : execute ctx (timeoutStatement timeout) site =
      ((query ctx (timeoutStatement timeout) site).1.map fun _ => (),
        (query ctx (timeoutStatement timeout) site).2) := by
    rcases hrun : query ctx (timeoutStatement timeout) site with ⟨rows | fault | note, after⟩
    · exact Step.bind_of_done hrun
    · exact Step.bind_of_failed hrun
    · exact Step.bind_of_crashed hrun
  rw [Step.mapFault, hexecute]
  refine ⟨hready, _, hrecord, ?_, ?_⟩
  · rw [Outcome.isCrashed_mapFault, Outcome.isCrashed_map]
    exact Bool.or_false _
  · rw [Outcome.isUnclassified_mapFault_timeoutFault]
    rcases query ctx (timeoutStatement timeout) site with ⟨(_ | _) | fault | note, after⟩ <;>
      simp [Event.isUnclassified, Event.asksVersion_timeoutStatement]

/-- A question for the version ends as its entry in the record tells. -/
theorem question_telling (ctx : ContextId) {sql : String} (hsql : Event.asksVersion sql = true) :
    Telling c (singleText ctx sql) := by
  intro site h
  obtain ⟨hready, origin, hrecord⟩ := query_of_ready h ctx sql
  rcases hrun : query ctx sql site with ⟨(_ | ⟨row, rest⟩) | fault | note, after⟩ <;>
    rw [hrun] at hready hrecord
  · rw [singleText, Step.bind_of_done hrun]
    exact ⟨hready, _, hrecord, rfl, rfl⟩
  · rw [singleText, Step.bind_of_done hrun]
    refine ⟨hready, _, hrecord, (Outcome.isCrashed_ofExcept _).symm, ?_⟩
    rw [List.any_cons, Event.isUnclassified, hsql, Bool.true_and]
    exact (Bool.or_false _).trans (Outcome.isUnclassified_firstColumn row).symm
  · rw [singleText, Step.bind_of_failed hrun]
    refine ⟨hready, _, hrecord, rfl, ?_⟩
    rw [List.any_cons, Event.isUnclassified, hsql, Bool.true_and]
    exact Bool.or_false _
  · rw [singleText, Step.bind_of_crashed hrun]
    exact ⟨hready, _, hrecord, rfl, rfl⟩

theorem detectVersion_telling (ctx : ContextId) : Telling c (detectVersion ctx) := by
  refine (question_telling ctx (by decide)).bind fun verbose => ?_
  split
  · exact .pure _
  · refine (question_telling ctx (by decide)).bind fun bare => ?_
    split
    · exact .pure _
    · exact .fail rfl

theorem configure_telling (ctx : ContextId) : Telling c (configure ctx) := by
  have hthis : Telling c this := fun site h => ⟨h, [], (List.append_nil _).symm, rfl, rfl⟩
  have hdetect : Telling c (detectVersion ctx >>= fun version =>
      Step.update fun site => { site with target := { site.target with version := version } }) :=
    (detectVersion_telling ctx).bind fun version site h =>
      ⟨h.congr rfl rfl, [], (List.append_nil _).symm, rfl, rfl⟩
  refine hthis.bind fun t => ?_
  split
  · exact (directive_telling ctx _).bind fun _ => hdetect
  · exact hdetect

/-- When setting up on a session just opened fails, the session is closed again; the fault shows
unless the closing crashes. -/
theorem configure_undoing_telling {site : Site (Audited σ) (Traced τ)} (h : Ready c site)
    (ctx : ContextId) :
    ∃ events, ((configure ctx).undoing close site).2.record = site.record ++ events ∧
      ((configure ctx).undoing close site).1.isUnclassified =
        (events.any Event.isUnclassified && !crashes events) := by
  obtain ⟨hready, events, hrecord, hcrash, hunclassified⟩ := configure_telling ctx site h
  rw [Step.undoing_eq]
  rcases hrun : configure ctx site with ⟨value | fault | note, after⟩ <;>
    rw [hrun] at hready hrecord hcrash hunclassified
  · refine ⟨events, hrecord, ?_⟩
    rw [hunclassified]
    rfl
  · -- The session is closed again, and a crash of that hides the fault there was.
    obtain ⟨traced, hhold⟩ := hready.owned
    obtain ⟨ending, final, hclose, hclosed⟩ := c.audited_close after.scene traced
    have hclosing : close after =
        (ending, { target := { after.target with hold := none }, scene := final }) := by
      rw [close_of_owned hhold, hready.connector_eq]
      exact onScene_of hclose
    refine ⟨events ++ [.close traced.origin ending], ?_, ?_⟩
    · change (close after).2.record = _
      rw [hclosing]
      change final.server.record = _
      rw [hclosed, ← List.append_assoc]
      exact congrArg (· ++ [Event.close traced.origin ending]) hrecord
    · change ((Outcome.failed fault).closedWith (close after).1).isUnclassified = _
      rw [hclosing, List.any_append, crashes_append, hunclassified, hcrash]
      cases ending <;> simp [Outcome.closedWith, Outcome.isUnclassified, Event.isUnclassified,
        crashes, Event.isCrash]
  · refine ⟨events, hrecord, ?_⟩
    rw [hunclassified]
    rfl

theorem setup_telling {site : Site (Audited σ) (Traced τ)}
    (h : site.target.connector = c.audited) (ctx : ContextId) :
    ∃ events, (setup ctx site).2.record = site.record ++ events ∧
      (setup ctx site).1.isUnclassified = (events.any Event.isUnclassified && !crashes events) := by
  obtain ⟨ending, after, hconnect, -, hrecord⟩ :=
    c.audited_connect site.scene ctx site.target.descriptor.text
  rw [← h] at hconnect
  cases ending with
  | done traced =>
    rw [setup_of_done hconnect]
    have hready : Ready c
        { target := { site.target with hold := some (.owned traced) }, scene := after } :=
      ⟨h, traced, rfl⟩
    obtain ⟨events, hevents, hunclassified⟩ := configure_undoing_telling hready ctx
    refine ⟨.connect site.target.descriptor.text (.done ()) :: events, ?_, hunclassified⟩
    rw [hevents, Site.record, hrecord, List.append_assoc]
    rfl
  | failed fault =>
    have hsetup : setup ctx site = (.failed fault, { site with scene := after }) :=
      (Step.bind_of_failed (onScene_of hconnect)).trans rfl
    rw [hsetup]
    refine ⟨_, hrecord, ?_⟩
    simp [Outcome.isUnclassified, Event.isUnclassified, crashes, Event.isCrash, Outcome.map]
  | crashed note =>
    have hsetup : setup ctx site = (.crashed note, { site with scene := after }) :=
      (Step.bind_of_crashed (onScene_of hconnect)).trans rfl
    rw [hsetup]
    exact ⟨_, hrecord, rfl⟩

/-! ## Copies and scrapes -/

theorem openCopy_failed_iff (template : Target σ τ) (ctx : ContextId) (scene : Scene σ)
    (fault : Fault) :
    (openCopy template ctx scene).1 = .failed fault ↔
      (setup ctx ⟨template.template, scene⟩).1 = .failed fault := by
  rw [openCopy]
  rcases setup ctx ⟨template.template, scene⟩ with ⟨value | other | note, site⟩
  · simp
  · simp
  · simp

end Target

namespace Scraper

theorem scrape_failed_iff (s : Scraper σ τ) (ctx : ContextId) (scene : Scene σ) (fault : Fault) :
    (s.scrape ctx scene).1 = .failed fault ↔
      (Target.openCopy s.template ctx scene).1 = .failed fault := by
  rcases hopen : Target.openCopy s.template ctx scene with ⟨target | other | note, after⟩
  · simp only [scrape, hopen, reduceCtorEq, iff_false]
    obtain hdone | ⟨note, hcrash⟩ := release_not_failed (s.runOn ctx ⟨target, after⟩).2.2.2
    · rw [hdone]
      simp [Outcome.map]
    · rw [hcrash]
      simp [Outcome.map]
  · simp only [scrape, hopen, Outcome.failed.injEq]
  · simp only [scrape, hopen, reduceCtorEq]

end Scraper

namespace Target

/-- **Why a scrape is given up.**  Setting a target up fails with a fault that is neither fatal nor
of a context that ended exactly when no call crashes and either no session could be opened or a
question for the version failed with such a fault, or the question was answered with a first row
without columns.  A copy of a template fails with the faults of its setting up, and a scrape with
those of its copy. -/
theorem setup_unclassified_iff (ctx : ContextId) :
    (∀ site : Site σ τ,
      let audited := (setup ctx site.audited).2
      audited.Audits site.target.connector (setup ctx site).2 ∧
        ((∃ fault, (setup ctx site).1 = .failed fault ∧
            fault.isInstanceFatal = false ∧ fault.isCancellation = false) ↔
          (∃ event ∈ audited.record, event.isUnclassified = true) ∧
            crashes audited.record = false)) ∧
      (∀ (template : Target σ τ) scene fault, (openCopy template ctx scene).1 = .failed fault ↔
        (setup ctx ⟨template.template, scene⟩).1 = .failed fault) ∧
      ∀ (s : Scraper σ τ) scene fault, (s.scrape ctx scene).1 = .failed fault ↔
        (openCopy s.template ctx scene).1 = .failed fault := by
  refine ⟨?_, fun template scene fault => openCopy_failed_iff template ctx scene fault,
    fun s scene fault => s.scrape_failed_iff ctx scene fault⟩
  intro site audited
  obtain ⟨hended, haudits⟩ := setup_lockstep ctx _ _ site.audits_audited
  refine ⟨haudits, ?_⟩
  have haudited : site.audited.target.connector = site.target.connector.audited := rfl
  obtain ⟨events, hrecord, hunclassified⟩ := setup_telling haudited ctx
  have hevents : audited.record = events := hrecord.trans (List.nil_append _)
  rw [hevents, ← List.any_eq_true, ← Bool.not_eq_true', ← Bool.and_eq_true_iff, ← hunclassified,
    Outcome.related_eq_iff.1 hended]
  cases (setup ctx site).1 with
  | failed fault => simp [Outcome.isUnclassified, Fault.isClassified]
  | done value => simp [Outcome.isUnclassified]
  | crashed note => simp [Outcome.isUnclassified]

/-- A server that refuses the question for the version makes a scrape fail with the fault of a
statement. -/
theorem setup_question_refused :
    let script := Script.answer {} "postgres" versionStatement (.failure "permission denied")
    let contexts := (Contexts.startingAt 0).background
    let site : Site Script String :=
      ⟨.unconfigured Script.connector (.keyValue ⟨[⟨"host", "h"⟩]⟩) 0, ⟨contexts.2, script, []⟩⟩
    (setup contexts.1 site).1 = .failed (.queryFailed "permission denied") ∧
      (Scraper.scrape ⟨[], site.target⟩ contexts.1 site.scene).1 =
        .failed (.queryFailed "permission denied") ∧
      (Fault.queryFailed "permission denied").isInstanceFatal = false ∧
      (Fault.queryFailed "permission denied").isCancellation = false := by
  decide +kernel

end Target

end PgVitals

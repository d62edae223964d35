import PgVitals.Proofs.Server.Attentive
import PgVitals.Proofs.Server.Plain
import PgVitals.Proofs.Target.Opening

/-!
# Setting up that fails is undone

A target takes hold of a session before the timeout is sent and the version is asked for, so every
fault behind that point has to be undone: a session that was opened is closed, one that was lent is
given back.  The version is noted last, and so never by halves.  The main statement is that a target
which holds nothing and fails to be set up, in either way, is the target that it was, that its calls
balance, and that it can be set up later as if nothing had happened.
-/

namespace PgVitals

variable {σ τ : Type} {ctx : ContextId}

/-- What a target is set up on. -/
inductive Footing (τ : Type) where
  /-- A session that it opens. -/
  | opened
  /-- A session that is lent to it. -/
  | lent (shared : Shared τ)

namespace Footing

/-- Sets a target up. -/
def setUp (ctx : ContextId) : Footing τ → Step (Site σ τ) Unit
  | opened => Target.setup ctx
  | lent shared => Target.setupShared ctx shared

/-- The same under audit; a session that is lent comes from outside. -/
def audited : Footing τ → Footing (Traced τ)
  | opened => opened
  | lent shared => lent ⟨⟨shared.session, .outside⟩, shared.lock⟩

/-- The descriptors under which a session is asked for. -/
def attempts (descriptor : String) : Footing τ → List String
  | opened => [descriptor]
  | lent _ => []

end Footing

/-! ## What becomes of the target -/

namespace Target

/-- A statement leaves the target as it is, whatever it holds. -/
theorem query_target (ctx : ContextId) (sql : String) (site : Site σ τ) :
    (query ctx sql site).2.target = site.target := by
  rcases hhold : site.target.hold with _ | (session | shared)
  · rw [query_of_not_held hhold]
  · rw [query_of_owned hhold]
    rfl
  · rcases hbroken : shared.isBroken site.scene with _ | _
    · obtain ⟨locks, hquery⟩ := query_of_lent hhold hbroken ctx sql
      rw [hquery]
    · rw [query_of_broken hhold hbroken]

theorem keeps_target (t : Target σ τ) (sql : String) :
    Step.Keeps (fun site => site.target = t) (query ctx sql) :=
  fun site hsite => (query_target ctx sql site).trans hsite

theorem learnVersion_knows (ctx : ContextId) (site : Site σ τ) :
    ∃ version : Outcome ServerVersion, (learnVersion ctx site).1 = version.map (fun _ => ()) ∧
      (learnVersion ctx site).2.target = site.target.knowing version := by
  have htarget : (detectVersion ctx site).2.target = site.target :=
    detectVersion_keeps (keeps_target site.target) site rfl
  rw [learnVersion]
  rcases hdetect : detectVersion ctx site with ⟨version | fault | note, after⟩ <;>
    rw [hdetect] at htarget
  · rw [Step.bind_of_done hdetect]
    refine ⟨.done version, rfl, ?_⟩
    change { after.target with version := version } = _
    rw [htarget]
    rfl
  · rw [Step.bind_of_failed hdetect]
    exact ⟨.failed fault, rfl, htarget⟩
  · rw [Step.bind_of_crashed hdetect]
    exact ⟨.crashed note, rfl, htarget⟩

/-- Of configuring a target nothing is left but the version, and that only if it was found out. -/
theorem configure_knows (ctx : ContextId) (site : Site σ τ) :
    ∃ version : Outcome ServerVersion, (configure ctx site).1 = version.map (fun _ => ()) ∧
      (configure ctx site).2.target = site.target.knowing version := by
  by_cases htimeout : site.target.statementTimeout = 0
  · rw [configure_untimed htimeout]
    exact learnVersion_knows ctx site
  · let sent : Step (Site σ τ) Unit :=
      (execute ctx (timeoutStatement site.target.statementTimeout)).mapFault timeoutFault
    have htarget : (sent site).2.target = site.target :=
      ((keeps_target site.target _).bind fun _ => Step.keeps_pure ()).mapFault timeoutFault site rfl
    rw [configure_timed htimeout]
    rcases hsent : sent site with ⟨value | fault | note, after⟩ <;> rw [hsent] at htarget
    · rw [Step.bind_of_done hsent, ← htarget]
      exact learnVersion_knows ctx after
    · rw [Step.bind_of_failed hsent]
      exact ⟨.failed fault, rfl, htarget⟩
    · rw [Step.bind_of_crashed hsent]
      exact ⟨.crashed note, rfl, htarget⟩

theorem target_close (site : Site σ τ) :
    (close site).2.target = { site.target with hold := none } := by
  rcases site with ⟨⟨connector, descriptor, timeout, _ | (session | shared), version⟩, scene⟩ <;>
    rfl

/-- When configuring fails, nothing is left of it once the session is let go. -/
theorem target_of_undone {t : Target σ τ} {hold : Option (Hold τ)} {scene : Scene σ}
    {undo : Step (Site σ τ) Unit} {fault : Fault} {after : Site σ τ}
    (hundo : ∀ site, (undo site).2.target = { site.target with hold := none })
    (h : (configure ctx).undoing undo ⟨{ t with hold := hold }, scene⟩ = (.failed fault, after)) :
    after.target = { t with hold := none } := by
  obtain ⟨version, hended, htarget⟩ := configure_knows ctx ⟨{ t with hold := hold }, scene⟩
  rw [Step.undoing_eq] at h
  rcases hrun : configure ctx ⟨{ t with hold := hold }, scene⟩ with ⟨outcome, configured⟩
  rw [hrun] at h hended htarget
  -- Only a failure is undone, and a failure has changed nothing but what is held.
  cases version with
  | done version =>
    obtain rfl : outcome = .done () := hended
    cases h
  | failed cause =>
    obtain rfl : outcome = .failed cause := hended
    obtain ⟨-, rfl⟩ := Prod.mk.inj h
    have hkept : configured.target = { t with hold := hold } := htarget
    rw [hundo, hkept]
  | crashed note =>
    obtain rfl : outcome = .crashed note := hended
    cases h

end Target

/-- A target that holds nothing is the target that it was. -/
theorem Footing.target_of_failed {footing : Footing τ} {site after : Site σ τ} {fault : Fault}
    (hnone : site.target.hold = none) (h : footing.setUp ctx site = (.failed fault, after)) :
    after.target = site.target := by
  have hsame : { site.target with hold := none } = site.target := by
    rw [← hnone]
  cases footing with
  | opened =>
    rcases hconnect : site.target.connector.connect ctx site.target.descriptor.text site.scene with
      ⟨session | cause | note, opened⟩
    · rw [setUp, Target.setup_of_done hconnect] at h
      exact (Target.target_of_undone Target.target_close h).trans hsame
    · rw [setUp, Target.setup_of_refused rfl hconnect] at h
      obtain ⟨-, rfl⟩ := Prod.mk.inj h
      rfl
    · rw [setUp, Target.setup_of_refused rfl hconnect] at h
      cases h
  | lent shared =>
    have hundo : ∀ site : Site σ τ,
        (Target.take none site).2.target = { site.target with hold := none } := fun _ => rfl
    have hafter : after.target = { { site.target with hold := some (.lent shared) } with
        hold := none } := Target.target_of_undone hundo h
    exact hafter.trans hsame

/-! ## What becomes of the sessions -/

/-- The target's calls are under audit, and sessions were asked for under the descriptors. -/
structure Asked (c : Connector σ τ) (descriptors : List String)
    (site : Site (Audited σ) (Traced τ)) : Prop where
  connector_eq : site.target.connector = c.audited
  attempts_eq : site.record.filterMap Event.attempt? = descriptors

section

variable {c : Connector σ τ} {descriptors : List String}

theorem Asked.record {site site' : Site (Audited σ) (Traced τ)} (h : Asked c descriptors site)
    (hconnector : site'.target.connector = site.target.connector) {event : Event}
    (hrecord : site'.record = site.record ++ [event]) :
    Asked c (descriptors ++ [event].filterMap Event.attempt?) site' := by
  refine ⟨hconnector.trans h.connector_eq, ?_⟩
  rw [hrecord, List.filterMap_append, h.attempts_eq]

/-- Any other call asks for no session. -/
theorem Asked.other {site site' : Site (Audited σ) (Traced τ)} (h : Asked c descriptors site)
    (hconnector : site'.target.connector = site.target.connector) {event : Event}
    (hevent : event.attempt? = none) (hrecord : site'.record = site.record ++ [event]) :
    Asked c descriptors site' := by
  simpa [hevent] using h.record hconnector hrecord

namespace Target

theorem query_asked (sql : String) : Step.Keeps (Asked c descriptors) (query ctx sql) := by
  intro site h
  obtain ⟨htarget, ⟨hrecord, -⟩ | ⟨origin, hrecord⟩⟩ := query_spec h.connector_eq ctx sql
  · exact ⟨by rw [htarget, h.connector_eq], by rw [hrecord, h.attempts_eq]⟩
  · exact h.other (by rw [htarget]) rfl hrecord

theorem configure_asked : Step.Keeps (Asked c descriptors) (configure ctx) :=
  configure_keeps (fun sql => query_asked sql) fun _ _ h => ⟨h.connector_eq, h.attempts_eq⟩

theorem close_asked : Step.Keeps (Asked c descriptors) close := by
  intro site h
  rcases howns : site.target.ownsSession with _ | _
  · rw [close_of_not_owned howns]
    exact ⟨h.connector_eq, h.attempts_eq⟩
  · obtain ⟨traced, hhold⟩ := exists_owned howns
    obtain ⟨closing, after, hclose, -, hrecord⟩ := close_sends h.connector_eq hhold
    have hconnector : (close site).2.target.connector = site.target.connector := by
      rw [target_close]
    rw [hclose] at hconnector
    rw [hclose]
    exact h.other hconnector rfl hrecord

end Target

/-- A session is asked for once if the target is to open one, and else never. -/
theorem Footing.setUp_asked (footing : Footing (Traced τ)) (ctx : ContextId)
    {site : Site (Audited σ) (Traced τ)} (h : Asked c descriptors site) :
    Asked c (descriptors ++ footing.attempts site.target.descriptor.text)
      (footing.setUp ctx site).2 := by
  cases footing with
  | opened =>
    obtain ⟨ending, scene, hconnect, -, hrecord⟩ :=
      c.audited_connect site.scene ctx site.target.descriptor.text
    rw [← h.connector_eq] at hconnect
    let asking : Site (Audited σ) (Traced τ) := { site with scene := scene }
    have hrecorded : asking.record = site.record ++
        [.connect site.target.descriptor.text (ending.map fun _ => ())] := hrecord
    have hconnector : asking.target.connector = site.target.connector := rfl
    have hasked := h.record hconnector hrecorded
    cases hdone : ending.isDone with
    | true =>
      obtain ⟨traced, rfl⟩ := Outcome.exists_of_isDone hdone
      rw [setUp, Target.setup_of_done hconnect]
      exact (Target.configure_asked.undoing Target.close_asked) _ ⟨hasked.connector_eq,
        hasked.attempts_eq⟩
    | false =>
      rw [setUp, Target.setup_of_refused hdone hconnect]
      exact hasked
  | lent shared =>
    have htake : ∀ hold, Step.Keeps (Asked c descriptors) (Target.take hold) :=
      fun hold site hsite => ⟨hsite.connector_eq, hsite.attempts_eq⟩
    have hsetUp : Step.Keeps (Asked c descriptors) (setUp ctx (.lent shared)) :=
      (htake _).bind fun _ => Target.configure_asked.undoing (htake none)
    rw [attempts, List.append_nil]
    exact hsetUp site h

theorem Footing.setUp_inOrder (footing : Footing τ) (ctx : ContextId)
    {site : Site (Audited σ) (Traced τ)} (h : InOrder c [] site) (hheld : site.target.held = []) :
    InOrder c [] (footing.audited.setUp ctx site).2 := by
  cases footing with
  | opened => exact Target.setup_inOrder_of_not_held h hheld ctx
  | lent shared =>
    have hafter := Target.setupShared_inOrder h ctx ⟨⟨shared.session, .outside⟩, shared.lock⟩
    rw [hheld] at hafter
    exact hafter

theorem Footing.setUp_lockstep (footing : Footing τ) (ctx : ContextId) :
    Step.Lockstep (Site.Audits c) Eq (footing.audited.setUp ctx) (footing.setUp ctx) := by
  cases footing with
  | opened => exact Target.setup_lockstep ctx
  | lent shared =>
    exact Target.setupShared_lockstep ctx ⟨⟨shared.session, .outside⟩, shared.lock⟩

end

/-! ## Setting up later -/

/-- The session that is held. -/
def Hold.session : Hold τ → τ
  | owned session => session
  | lent shared => shared.session

/-- The session held can be used: the lock of one that is lent is not broken. -/
def Hold.Usable (s : Scene σ) : Hold τ → Prop
  | owned _ => True
  | lent shared => shared.isBroken s = false

namespace Connector

/-- In a world of scenes a statement is answered by a text, by NULL or by no row, and a reader finds
the version in it that is given, or none. -/
def Tells (c : Connector σ τ) (ctx : ContextId) (world : Scene σ → Prop) (session : τ)
    (sql : String) (read : String → Option ServerVersion) (found : Option ServerVersion) : Prop :=
  ∀ s, world s → ∃ rows text s', c.query session ctx sql s = (.done rows, s') ∧ world s' ∧
    textOf (.done rows) = .done text ∧ text.bind read = found

/-- A session in health: in a world of scenes a timeout is accepted, and the version is told in one
of the two ways. -/
structure Healthy (c : Connector σ τ) (ctx : ContextId) (world : Scene σ → Prop) (timeout : Nat)
    (version : ServerVersion) (session : τ) : Prop where
  accepts : timeout ≠ 0 → ∀ s, world s → ∃ rows s',
    c.query session ctx (timeoutStatement timeout) s = (.done rows, s') ∧ world s'
  tells :
    c.Tells ctx world session versionStatement ServerVersion.readVerbose? (some version) ∨
      (c.Tells ctx world session versionStatement ServerVersion.readVerbose? none ∧
        c.Tells ctx world session serverVersionStatement ServerVersion.readBare? (some version))

end Connector

/-- A session in health is opened, or is lent and not out of use. -/
def Footing.Sound (c : Connector σ τ) (ctx : ContextId) (world : Scene σ → Prop)
    (descriptor : String) (timeout : Nat) (version : ServerVersion) : Footing τ → Prop
  | opened => ∀ s, world s → ∃ session s', c.connect ctx descriptor s = (.done session, s') ∧
      world s' ∧ c.Healthy ctx world timeout version session
  | lent shared => (∀ s, world s → shared.isBroken s = false) ∧
      c.Healthy ctx world timeout version shared.session

section

variable {world : Scene σ → Prop} {version : ServerVersion}

namespace Target

theorem query_of_usable {site : Site σ τ} {hold : Hold τ} {sql : String} {rows : List Row}
    {after : Scene σ} (hhold : site.target.hold = some hold) (husable : hold.Usable site.scene)
    (h : site.target.connector.query hold.session ctx sql site.scene = (.done rows, after)) :
    query ctx sql site = (.done rows, { site with scene := after }) := by
  cases hold with
  | owned session =>
    rw [query_of_owned hhold]
    exact onScene_of h
  | lent shared =>
    have hnot : ¬shared.isBroken site.scene = true := Bool.not_eq_true _ ▸ husable
    have huse : onScene (shared.use fun session => site.target.connector.query session ctx sql)
        site = (.done (some rows), { site with scene := after }) := by
      have hcall : site.target.connector.query shared.session ctx sql site.scene =
          (.done rows, after) := h
      refine onScene_of ?_
      rw [Shared.use, if_neg hnot, hcall]
      rfl
    rw [query_of_lent_eq hhold, Step.bind_of_done huse]
    rfl

/-- The target holds a session that can be used in every scene of the world. -/
def InUse (world : Scene σ → Prop) (t : Target σ τ) (session : τ) : Prop :=
  ∃ hold, t.hold = some hold ∧ hold.session = session ∧ ∀ s, world s → hold.Usable s

theorem query_of_inUse {t : Target σ τ} {session : τ} (h : InUse world t session) {s s' : Scene σ}
    (hs : world s) {sql : String} {rows : List Row}
    (hquery : t.connector.query session ctx sql s = (.done rows, s')) :
    query ctx sql ⟨t, s⟩ = (.done rows, ⟨t, s'⟩) := by
  obtain ⟨hold, hhold, rfl, husable⟩ := h
  exact @query_of_usable σ τ ctx ⟨t, s⟩ hold sql rows s' hhold (husable s hs) hquery

theorem singleText_of_tells {t : Target σ τ} {session : τ} (h : InUse world t session)
    {sql : String} {read : String → Option ServerVersion} {found : Option ServerVersion}
    (htells : t.connector.Tells ctx world session sql read found) {s : Scene σ} (hs : world s) :
    ∃ text s', singleText ctx sql ⟨t, s⟩ = (.done text, ⟨t, s'⟩) ∧ world s' ∧
      text.bind read = found := by
  obtain ⟨rows, text, s', hquery, hs', htext, hfound⟩ := htells s hs
  refine ⟨text, s', ?_, hs', hfound⟩
  rw [singleText_of_query (query_of_inUse h hs hquery), htext]

theorem learnVersion_of_healthy {t : Target σ τ} {session : τ} (h : InUse world t session)
    {timeout : Nat} (hhealthy : t.connector.Healthy ctx world timeout version session)
    {s : Scene σ} (hs : world s) :
    ∃ s', learnVersion ctx ⟨t, s⟩ = (.done (), ⟨{ t with version := version }, s'⟩) := by
  rw [learnVersion, detectVersion]
  obtain hverbose | ⟨hverbose, hbare⟩ := hhealthy.tells
  · obtain ⟨text, s', hasked, -, hread⟩ := singleText_of_tells h hverbose hs
    refine ⟨s', ?_⟩
    rw [bind_assoc, Step.bind_of_done hasked, hread]
    rfl
  · obtain ⟨unread, s₁, hasked, hs₁, hunread⟩ := singleText_of_tells h hverbose hs
    obtain ⟨text, s₂, hagain, -, hread⟩ := singleText_of_tells h hbare hs₁
    refine ⟨s₂, ?_⟩
    rw [bind_assoc, Step.bind_of_done hasked, hunread, bind_assoc, Step.bind_of_done hagain, hread]
    rfl

/-- On a session in health a target is configured. -/
theorem configure_of_healthy {t : Target σ τ} {session : τ} (h : InUse world t session)
    (hhealthy : t.connector.Healthy ctx world t.statementTimeout version session) {s : Scene σ}
    (hs : world s) :
    ∃ s', configure ctx ⟨t, s⟩ = (.done (), ⟨{ t with version := version }, s'⟩) := by
  let site : Site σ τ := ⟨t, s⟩
  by_cases htimeout : site.target.statementTimeout = 0
  · rw [configure_untimed htimeout]
    exact learnVersion_of_healthy h hhealthy hs
  · obtain ⟨rows, s₁, haccepted, hs₁⟩ := hhealthy.accepts htimeout s hs
    have hquery : query ctx (timeoutStatement t.statementTimeout) ⟨t, s⟩ = (.done rows, ⟨t, s₁⟩) :=
      query_of_inUse h hs haccepted
    have hsent : (execute ctx (timeoutStatement t.statementTimeout)).mapFault timeoutFault ⟨t, s⟩ =
        (.done (), ⟨t, s₁⟩) := by
      rw [Step.mapFault, execute, Step.bind_of_done hquery]
      rfl
    rw [configure_timed htimeout, Step.bind_of_done hsent]
    exact learnVersion_of_healthy h hhealthy hs₁

end Target

/-- On a sound footing a target is set up. -/
theorem Footing.setUp_of_sound {footing : Footing τ} {t : Target σ τ}
    (h : footing.Sound t.connector ctx world t.descriptor.text t.statementTimeout version)
    {s : Scene σ} (hs : world s) :
    ∃ hold s', footing.setUp ctx ⟨t, s⟩ =
      (.done (), ⟨{ t with hold := some hold, version := version }, s'⟩) := by
  cases footing with
  | opened =>
    obtain ⟨session, s₁, hconnect, hs₁, hhealthy⟩ := h s hs
    have hinUse : Target.InUse world { t with hold := some (.owned session) } session :=
      ⟨_, rfl, rfl, fun _ _ => trivial⟩
    obtain ⟨s', hconfigure⟩ := Target.configure_of_healthy hinUse hhealthy hs₁
    let site : Site σ τ := ⟨t, s⟩
    have hsetup : Target.setup ctx site = ((Target.configure ctx).undoing Target.close)
        ⟨{ t with hold := some (.owned session) }, s₁⟩ := Target.setup_of_done hconnect
    exact ⟨.owned session, s', hsetup.trans (Step.undoing_of_done hconfigure)⟩
  | lent shared =>
    obtain ⟨hunbroken, hhealthy⟩ := h
    have hinUse : Target.InUse world { t with hold := some (.lent shared) } shared.session :=
      ⟨_, rfl, rfl, hunbroken⟩
    obtain ⟨s', hconfigure⟩ := Target.configure_of_healthy hinUse hhealthy hs
    exact ⟨.lent shared, s', Step.undoing_of_done hconfigure⟩

end

/-- **Setting up that fails is undone.** A target that holds nothing, and fails to be set up on a
session that it opens or on one lent to it, is what it was: it holds nothing and has its version,
descriptor and timeout.  It asked for a session once if it was to open one, and else never; what it
opened it closed, once, and nothing that was lent to it.  Setting it up later, in either way, comes
to what it would have come to, and succeeds on a sound footing. -/
theorem Footing.setUp_undone (footing : Footing τ) (ctx : ContextId) {site after : Site σ τ}
    {fault : Fault} (hnone : site.target.hold = none)
    (h : footing.setUp ctx site = (.failed fault, after)) :
    after.target = site.target ∧
      (∃ audited, footing.audited.setUp ctx site.audited = (.failed fault, audited) ∧
        audited.Audits site.target.connector after ∧
        audited.record.filterMap Event.attempt? = footing.attempts site.target.descriptor.text ∧
        (∀ n, n < openings audited.record → closings (.opened n) audited.record = 1) ∧
        closings .outside audited.record = 0) ∧
      ∀ (later : Footing τ) (ctx' : ContextId) (scene : Scene σ),
        later.setUp ctx' ⟨after.target, scene⟩ = later.setUp ctx' ⟨site.target, scene⟩ ∧
        ∀ world version, world scene →
          later.Sound site.target.connector ctx' world site.target.descriptor.text
            site.target.statementTimeout version →
          ∃ hold scene', later.setUp ctx' ⟨after.target, scene⟩ =
            (.done (), ⟨{ site.target with hold := some hold, version := version }, scene'⟩) := by
  have htarget : after.target = site.target := target_of_failed hnone h
  refine ⟨htarget, ?_, fun later ctx' scene => ?_⟩
  · obtain ⟨hended, haudits⟩ := footing.setUp_lockstep ctx site.audited site site.audits_audited
    have horder := footing.setUp_inOrder ctx (.audited hnone)
      (Target.held_of_hold_eq_none (Site.hold_audited hnone))
    have hasked : Asked site.target.connector [] site.audited := ⟨rfl, rfl⟩
    have hattempts := (footing.audited.setUp_asked ctx hasked).attempts_eq
    rcases hrun : footing.audited.setUp ctx site.audited with ⟨outcome, audited⟩
    rw [hrun] at hended haudits horder hattempts
    rw [h] at hended haudits
    obtain rfl : outcome = .failed fault := Outcome.related_eq_iff.1 hended
    -- The target is the one of before, so every session opened meanwhile has been closed.
    have hheld : audited.target.held = [] := by
      apply Target.held_of_hold_eq_none
      have hplain := haudits.target.hold_eq
      rw [htarget, hnone] at hplain
      simpa using hplain
    have haccounts := horder.accounts
    rw [hheld, List.append_nil] at haccounts
    refine ⟨audited, rfl, haudits, ?_, fun n hn => ?_, haccounts.outside⟩
    · rw [hattempts]
      cases footing <;> rfl
    · have hbalance := haccounts.opened n
      rw [if_pos hn] at hbalance
      simpa using hbalance
  · rw [htarget]
    exact ⟨rfl, fun world version hscene hsound => setUp_of_sound hsound hscene⟩

/-- A target whose server hides its version closes the session that it opened, and is set up later
on a session lent to it by a server that tells its version. -/
theorem Footing.setUp_undone_hidden_version :
    let script := ((Script.answer {} "postgres" versionStatement (.rows [⟨[none]⟩])).answer
      "postgres" serverVersionStatement (.rows [⟨[some "devel"]⟩])).answer
      "app" versionStatement (.rows [⟨[some "PostgreSQL 16.4 on x86_64"]⟩])
    let site : Site Script String :=
      ⟨.unconfigured Script.connector (.keyValue ⟨[⟨"host", "h"⟩]⟩) 0, .around script 0⟩
    ∃ after audited, opened.setUp 0 site = (.failed (.versionUnparseable "devel"), after) ∧
      opened.setUp 0 site.audited = (.failed (.versionUnparseable "devel"), audited) ∧
      openings audited.record = 1 ∧ closings (.opened 0) audited.record = 1 ∧
      after.target = site.target ∧
      ∃ hold scene', (Footing.lent ⟨"app", 0⟩).setUp 0 ⟨after.target, .around script 1⟩ =
        (.done (), ⟨{ site.target with hold := some hold, version := ⟨16, 4, 0⟩ }, scene'⟩) := by
  intro script site
  have hended : (opened.setUp 0 site).1 = .failed (.versionUnparseable "devel") := by
    decide +kernel
  have hfailed : opened.setUp 0 site =
      (.failed (.versionUnparseable "devel"), (opened.setUp 0 site).2) := Prod.ext hended rfl
  obtain ⟨htarget, ⟨audited, hrun, -, -, hclosed, -⟩, hlater⟩ := setUp_undone opened 0 rfl hfailed
  have hopenings : openings audited.record = 1 := by
    have hrecord : openings (opened.setUp 0 site.audited).2.record = 1 := by decide +kernel
    have hsame : opened.setUp 0 site.audited =
        (.failed (.versionUnparseable "devel"), audited) := hrun
    rwa [hsame] at hrecord
  refine ⟨_, audited, hfailed, hrun, hopenings, hclosed 0 (by omega), htarget, ?_⟩
  refine (hlater (.lent ⟨"app", 0⟩) 0 (.around script 1)).2
    (fun s => s.contexts = .startingAt 1 ∧ s.server.answers = script.answers ∧ s.locks = []) _
    ⟨rfl, rfl, rfl⟩ ⟨?_, ?_, .inl ?_⟩
  · rintro s ⟨-, -, hlocks⟩
    rw [Shared.isBroken, hlocks]
    rfl
  · intro h
    cases h rfl
  · rintro s ⟨hcontexts, hanswers, hlocks⟩
    have hopen : s.contexts.ending? 0 = none := by
      rw [hcontexts]
      rfl
    have hanswer : s.server.answer? "app" versionStatement =
        some (.rows [⟨[some "PostgreSQL 16.4 on x86_64"]⟩]) := by
      rw [Script.answer?, hanswers]
      decide +kernel
    exact ⟨_, _, _, Script.query_of_rows hopen hanswer, ⟨hcontexts, hanswers, hlocks⟩, rfl,
      by decide +kernel⟩

end PgVitals

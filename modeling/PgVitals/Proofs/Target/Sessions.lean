import PgVitals.Proofs.Server.Audit

/-!
# The sessions that a target opens

A target under audit is in order when the sessions it opened are closed, each once, except for the
one that it holds and a list of sessions that it has lost.  Statements keep a target in order and
lose nothing, and so does closing it.  Only taking hold of a session can lose one: the session held
before, if the target had opened it, is neither closed nor held any more.
-/

namespace PgVitals

variable {σ τ α : Type}

theorem Target.exists_owned {t : Target σ τ} (h : t.ownsSession = true) :
    ∃ session, t.hold = some (.owned session) := by
  rw [ownsSession] at h
  split at h
  · exact ⟨_, ‹_›⟩
  · simp at h

/-- The number of the session that the target opened and holds. -/
def Target.held (t : Target (Audited σ) (Traced τ)) : List Nat :=
  match t.hold with
  | some (.owned ⟨_, .opened n⟩) => [n]
  | _ => []

/-- The target's calls are under audit, it owns only sessions that it opened, and the record
balances except for the session held and those lost. -/
structure InOrder (c : Connector σ τ) (lost : List Nat) (site : Site (Audited σ) (Traced τ)) :
    Prop where
  connector_eq : site.target.connector = c.audited
  opened : ∀ traced, site.target.hold = some (.owned traced) → ∃ n, traced.origin = .opened n
  accounts : Accounts site.record (site.target.held ++ lost)

namespace InOrder

variable {c : Connector σ τ} {lost : List Nat} {site : Site (Audited σ) (Traced τ)}

/-- Only the hold of the target and the record of the calls matter. -/
theorem congr {site' : Site (Audited σ) (Traced τ)} (h : InOrder c lost site)
    (hconnector : site'.target.connector = site.target.connector)
    (hhold : site'.target.hold = site.target.hold) (hrecord : site'.record = site.record) :
    InOrder c lost site' := by
  refine ⟨hconnector.trans h.connector_eq, fun traced htraced => ?_, ?_⟩
  · exact h.opened traced (hhold ▸ htraced)
  · have hheld : site'.target.held = site.target.held := by
      rw [Target.held, Target.held, hhold]
    rw [hrecord, hheld]
    exact h.accounts

/-- A statement more in the record. -/
theorem query {site' : Site (Audited σ) (Traced τ)} (h : InOrder c lost site)
    (htarget : site'.target = site.target) {origin : Origin} {sql : String}
    {ending : Outcome (List Row)}
    (hrecord : site'.record = site.record ++ [.query origin sql ending]) :
    InOrder c lost site' := by
  refine ⟨by rw [htarget]; exact h.connector_eq, by rw [htarget]; exact h.opened, ?_⟩
  rw [htarget, hrecord]
  exact h.accounts.query origin sql ending

/-- The session owned has a number, and it is the one that is held. -/
theorem held_of_owned (h : InOrder c lost site) {traced : Traced τ}
    (hhold : site.target.hold = some (.owned traced)) :
    ∃ n, traced.origin = .opened n ∧ site.target.held = [n] := by
  obtain ⟨n, hn⟩ := h.opened traced hhold
  obtain ⟨session, origin⟩ := traced
  obtain rfl : origin = .opened n := hn
  exact ⟨n, rfl, by rw [Target.held, hhold]⟩

theorem held_eq_nil_iff (h : InOrder c lost site) :
    site.target.held = [] ↔ site.target.ownsSession = false := by
  rw [Target.held, Target.ownsSession]
  rcases hhold : site.target.hold with _ | (traced | shared)
  · simp
  · obtain ⟨n, hn⟩ := h.opened traced hhold
    obtain ⟨session, origin⟩ := traced
    obtain rfl : origin = .opened n := hn
    simp
  · simp

end InOrder

theorem Site.hold_audited {site : Site σ τ} (h : site.target.hold = none) :
    site.audited.target.hold = none := by
  change site.target.hold.map _ = none
  rw [h, Option.map_none]

theorem Target.held_of_hold_eq_none {t : Target (Audited σ) (Traced τ)} (h : t.hold = none) :
    t.held = [] := by
  rw [held, h]

/-- A target that holds nothing is in order when it is put under audit. -/
theorem InOrder.audited {site : Site σ τ} (h : site.target.hold = none) :
    InOrder site.target.connector [] site.audited := by
  have hnone : site.audited.target.hold = none := Site.hold_audited h
  refine ⟨rfl, fun traced htraced => ?_, ?_⟩
  · rw [hnone] at htraced
    cases htraced
  · rw [Target.held_of_hold_eq_none hnone]
    exact Accounts.nil

/-- The target's calls are under audit, and it holds a session that it opened. -/
structure Ready (c : Connector σ τ) (site : Site (Audited σ) (Traced τ)) : Prop where
  connector_eq : site.target.connector = c.audited
  owned : ∃ traced, site.target.hold = some (.owned traced)

theorem Ready.congr {c : Connector σ τ} {site site' : Site (Audited σ) (Traced τ)}
    (h : Ready c site) (hconnector : site'.target.connector = site.target.connector)
    (hhold : site'.target.hold = site.target.hold) : Ready c site' :=
  ⟨hconnector.trans h.connector_eq, hhold ▸ h.owned⟩

/-- A statement that starts otherwise sets no timeout. -/
theorem append_ne_timeoutStatement {x y z : Char} {start : List Char}
    (h : [x, y, z] ≠ ['S', 'E', 'T']) (rest : String) (timeout : Nat) :
    String.ofList (x :: y :: z :: start) ++ rest ≠ timeoutStatement timeout := by
  have hset : (timeoutStatement timeout).toList = "SET statement_timeout = ".toList ++
      (toString (timeout / nanosecondsPerMillisecond)).toList := String.toList_append
  have hstart : "SET statement_timeout = ".toList =
      'S' :: 'E' :: 'T' :: " statement_timeout = ".toList := String.toList_ofList
  intro heq
  rw [← heq, String.toList_append, String.toList_ofList, hstart] at hset
  apply h
  simpa only [List.cons_append, List.take_succ_cons, List.take_zero] using
    congrArg (List.take 3) hset

theorem ne_timeoutStatement {x y z : Char} {cs : List Char} (h : [x, y, z] ≠ ['S', 'E', 'T'])
    (timeout : Nat) : String.ofList (x :: y :: z :: cs) ≠ timeoutStatement timeout := by
  have happend := @append_ne_timeoutStatement x y z cs h "" timeout
  rwa [String.append_empty] at happend

namespace Target

variable {c : Connector σ τ} {lost : List Nat}

/-! ## Statements -/

theorem query_of_not_held {site : Site σ τ} (h : site.target.hold = none) (ctx : ContextId)
    (sql : String) :
    query ctx sql site = (.failed (.connectionFailed "instance is not set up"), site) := by
  rcases site with ⟨⟨connector, descriptor, timeout, hold, version⟩, scene⟩
  obtain rfl : hold = none := h
  rfl

theorem query_of_owned {site : Site σ τ} {session : τ}
    (h : site.target.hold = some (.owned session))
    (ctx : ContextId) (sql : String) :
    query ctx sql site = onScene (site.target.connector.query session ctx sql) site := by
  rcases site with ⟨⟨connector, descriptor, timeout, hold, version⟩, scene⟩
  obtain rfl : hold = some (.owned session) := h
  rfl

theorem onScene_of {step : Step (Scene σ) α} {site : Site σ τ} {outcome : Outcome α}
    {after : Scene σ} (h : step site.scene = (outcome, after)) :
    onScene step site = (outcome, { site with scene := after }) :=
  congrArg (fun ended => (ended.1, ({ site with scene := ended.2 } : Site σ τ))) h

theorem query_of_lent_eq {site : Site σ τ} {shared : Shared τ}
    (h : site.target.hold = some (.lent shared)) (ctx : ContextId) (sql : String) :
    query ctx sql site =
      (onScene (shared.use fun session => site.target.connector.query session ctx sql) >>=
        fun
        | some rows => pure rows
        | none => Step.fail (.connectionFailed "shared session lock poisoned")) site := by
  rcases site with ⟨⟨connector, descriptor, timeout, hold, version⟩, scene⟩
  obtain rfl : hold = some (.lent shared) := h
  rfl

theorem query_of_broken {site : Site σ τ} {shared : Shared τ}
    (h : site.target.hold = some (.lent shared)) (hbroken : shared.isBroken site.scene = true)
    (ctx : ContextId) (sql : String) :
    query ctx sql site = (.failed (.connectionFailed "shared session lock poisoned"), site) := by
  have huse : onScene (shared.use fun session => site.target.connector.query session ctx sql) site =
      (.done none, site) := by
    refine onScene_of ?_
    rw [Shared.use, if_pos hbroken]
  rw [query_of_lent_eq h, Step.bind_of_done huse]
  rfl

/-- A crash breaks the lock of a lent session; nothing else shows that the session is lent. -/
theorem query_of_lent {site : Site σ τ} {shared : Shared τ}
    (h : site.target.hold = some (.lent shared)) (hbroken : shared.isBroken site.scene = false)
    (ctx : ContextId) (sql : String) :
    ∃ locks, query ctx sql site =
      ((site.target.connector.query shared.session ctx sql site.scene).1,
        { site with
          scene := { (site.target.connector.query shared.session ctx sql site.scene).2 with
            locks := locks } }) := by
  have hnot : ¬shared.isBroken site.scene = true := by
    rw [hbroken]
    simp
  rw [query_of_lent_eq h]
  rcases hcall : site.target.connector.query shared.session ctx sql site.scene with
    ⟨rows | fault | note, after⟩
  · refine ⟨after.locks, ?_⟩
    have huse : onScene (shared.use fun session => site.target.connector.query session ctx sql)
        site = (.done (some rows), { site with scene := after }) := by
      refine onScene_of ?_
      rw [Shared.use, if_neg hnot, hcall]
      rfl
    rw [Step.bind_of_done huse]
    rfl
  · refine ⟨after.locks, Step.bind_of_failed (onScene_of ?_)⟩
    rw [Shared.use, if_neg hnot, hcall]
    rfl
  · -- A crash under the lock breaks it.
    refine ⟨after.locks.set shared.lock true, Step.bind_of_crashed (onScene_of ?_)⟩
    rw [Shared.use, if_neg hnot, hcall]

/-- A statement leaves the target as it is.  It is one call with its outcome, unless no session can
be used. -/
theorem query_spec {site : Site (Audited σ) (Traced τ)} (h : site.target.connector = c.audited)
    (ctx : ContextId) (sql : String) :
    (query ctx sql site).2.target = site.target ∧
      (((query ctx sql site).2.record = site.record ∧
          ∃ detail, (query ctx sql site).1 = .failed (.connectionFailed detail)) ∨
        ∃ origin, (query ctx sql site).2.record =
          site.record ++ [.query origin sql (query ctx sql site).1]) := by
  rcases hhold : site.target.hold with _ | (traced | shared)
  · rw [query_of_not_held hhold]
    exact ⟨rfl, Or.inl ⟨rfl, _, rfl⟩⟩
  · rw [query_of_owned hhold, h]
    exact ⟨rfl, Or.inr ⟨traced.origin, rfl⟩⟩
  · rcases hbroken : shared.isBroken site.scene with _ | _
    · obtain ⟨locks, hquery⟩ := query_of_lent hhold hbroken ctx sql
      rw [hquery, h]
      exact ⟨rfl, Or.inr ⟨shared.session.origin, rfl⟩⟩
    · rw [query_of_broken hhold hbroken]
      exact ⟨rfl, Or.inl ⟨rfl, _, rfl⟩⟩

/-- On a session that the target opened, a statement is one call. -/
theorem query_of_ready {site : Site (Audited σ) (Traced τ)} (h : Ready c site) (ctx : ContextId)
    (sql : String) :
    Ready c (query ctx sql site).2 ∧ ∃ origin,
      (query ctx sql site).2.record =
        site.record ++ [.query origin sql (query ctx sql site).1] := by
  obtain ⟨traced, hhold⟩ := h.owned
  rw [query_of_owned hhold, h.connector_eq]
  exact ⟨h.congr rfl rfl, traced.origin, rfl⟩

theorem this_keeps {I : Site σ τ → Prop} : Step.Keeps I this :=
  Step.keeps_state.bind fun _ => Step.keeps_pure _

section

variable {I : Site σ τ → Prop} {ctx : ContextId}

theorem singleText_keeps (hquery : ∀ sql, Step.Keeps I (query ctx sql)) (sql : String) :
    Step.Keeps I (singleText ctx sql) := by
  refine (hquery sql).bind fun rows => ?_
  cases rows with
  | nil => exact Step.keeps_pure _
  | cons row rest => exact Step.keeps_ofExcept _

theorem detectVersion_keeps (hquery : ∀ sql, Step.Keeps I (query ctx sql)) :
    Step.Keeps I (detectVersion ctx) := by
  refine (singleText_keeps hquery _).bind fun verbose => ?_
  split
  · exact Step.keeps_pure _
  · refine (singleText_keeps hquery _).bind fun bare => ?_
    split
    · exact Step.keeps_pure _
    · exact Step.keeps_fail _

/-- Configuring is made of statements and of noting the version. -/
theorem configure_keeps (hquery : ∀ sql, Step.Keeps I (query ctx sql))
    (hversion : ∀ site version, I site →
      I { site with target := { site.target with version := version } }) :
    Step.Keeps I (configure ctx) := by
  have hdetect : Step.Keeps I (detectVersion ctx >>= fun version =>
      Step.update fun site => { site with target := { site.target with version := version } }) :=
    (detectVersion_keeps hquery).bind fun version =>
      Step.keeps_update fun site h => hversion site version h
  refine this_keeps.bind fun t => ?_
  split
  · refine Step.Keeps.bind (Step.Keeps.mapFault ?_ timeoutFault) fun _ => hdetect
    exact (hquery _).bind fun _ => Step.keeps_pure _
  · exact hdetect

end

theorem query_keeps (ctx : ContextId) (sql : String) :
    Step.Keeps (InOrder c lost) (query ctx sql) := by
  intro site h
  obtain ⟨htarget, ⟨hrecord, -⟩ | ⟨origin, hrecord⟩⟩ := query_spec h.connector_eq ctx sql
  · exact h.congr (by rw [htarget]) (by rw [htarget]) hrecord
  · exact h.query htarget hrecord

/-- Configuring does not change the hold either. -/
theorem configure_inOrder {site : Site (Audited σ) (Traced τ)} (h : InOrder c lost site)
    (ctx : ContextId) :
    InOrder c lost (configure ctx site).2 ∧
      (configure ctx site).2.target.hold = site.target.hold := by
  refine configure_keeps (I := fun after => InOrder c lost after ∧
    after.target.hold = site.target.hold) (fun sql after hafter => ?_)
    (fun after version hafter => ⟨hafter.1.congr rfl rfl rfl, hafter.2⟩) site ⟨h, rfl⟩
  refine ⟨query_keeps ctx sql after hafter.1, ?_⟩
  rw [(query_spec hafter.1.connector_eq ctx sql).1, hafter.2]

/-! ## Letting go of a session -/

theorem close_of_not_owned {site : Site σ τ} (h : site.target.ownsSession = false) :
    close site = (.done (), { site with target := { site.target with hold := none } }) := by
  rcases site with ⟨⟨connector, descriptor, timeout, _ | (session | shared), version⟩, scene⟩
  · rfl
  · simp [ownsSession] at h
  · rfl

theorem close_of_owned {site : Site σ τ} {session : τ}
    (h : site.target.hold = some (.owned session)) :
    close site = onScene (site.target.connector.close session)
      { site with target := { site.target with hold := none } } := by
  rcases site with ⟨⟨connector, descriptor, timeout, hold, version⟩, scene⟩
  obtain rfl : hold = some (.owned session) := h
  rfl

theorem hold_close (site : Site σ τ) : (close site).2.target.hold = none := by
  rcases site with ⟨⟨connector, descriptor, timeout, _ | (session | shared), version⟩, scene⟩ <;>
    rfl

/-- The session held is closed if it was opened here, and no other one is. -/
theorem close_keeps : Step.Keeps (InOrder c lost) close := by
  intro site h
  rcases howns : site.target.ownsSession with _ | _
  · rw [close_of_not_owned howns]
    have haccounts := h.accounts
    rw [h.held_eq_nil_iff.2 howns] at haccounts
    refine ⟨h.connector_eq, fun traced htraced => ?_, haccounts⟩
    cases htraced
  · obtain ⟨traced, hhold⟩ := exists_owned howns
    obtain ⟨n, hn, hheld⟩ := h.held_of_owned hhold
    have haccounts := h.accounts
    rw [hheld] at haccounts
    rw [close_of_owned hhold, h.connector_eq]
    refine ⟨h.connector_eq, fun traced htraced => ?_, ?_⟩
    · cases htraced
    · change Accounts (site.record ++ [.close traced.origin _]) lost
      rw [hn]
      exact haccounts.close _

theorem release_eq (site : Site σ τ) :
    release site = ((Outcome.done ()).closedWith (close site).1, (close site).2) := by
  rw [release, Step.quietly, Step.ensuring_eq]
  rfl

theorem hold_release (site : Site σ τ) : (release site).2.target.hold = none := by
  rw [release_eq]
  exact hold_close site

theorem release_keeps : Step.Keeps (InOrder c lost) release :=
  (Step.keeps_pure ()).ensuring close_keeps

/-! ## Taking hold of a session -/

theorem setup_of_done {site : Site σ τ} {ctx : ContextId} {session : τ} {after : Scene σ}
    (h : site.target.connector.connect ctx site.target.descriptor.text site.scene =
      (.done session, after)) :
    setup ctx site = ((configure ctx).undoing close)
      { target := { site.target with hold := some (.owned session) }, scene := after } :=
  (Step.bind_of_done (onScene_of h)).trans rfl

/-- Nothing is taken hold of unless a session was opened. -/
theorem setup_of_not_done {site : Site σ τ} {ctx : ContextId}
    (h : (site.target.connector.connect ctx site.target.descriptor.text site.scene).1.isDone =
      false) :
    (setup ctx site).2 = { site with
      scene := (site.target.connector.connect ctx site.target.descriptor.text site.scene).2 } := by
  rcases hconnect : site.target.connector.connect ctx site.target.descriptor.text site.scene with
    ⟨session | fault | note, after⟩ <;> rw [hconnect] at h
  · simp [Outcome.isDone] at h
  · exact congrArg Prod.snd (Step.bind_of_failed (onScene_of hconnect))
  · exact congrArg Prod.snd (Step.bind_of_crashed (onScene_of hconnect))

/-- When the session was opened, one opened before and still held is lost. -/
theorem setup_inOrder_of_done {site : Site (Audited σ) (Traced τ)} {ctx : ContextId}
    (h : InOrder c lost site)
    (hdone : (c.connect ctx site.target.descriptor.text site.scene.plain).1.isDone = true) :
    InOrder c (site.target.held ++ lost) (setup ctx site).2 := by
  rcases hconnect : c.connect ctx site.target.descriptor.text site.scene.plain with
    ⟨session | fault | note, after⟩ <;> rw [hconnect] at hdone
  · have haudited : site.target.connector.connect ctx site.target.descriptor.text site.scene =
        (.done ⟨session, .opened (openings site.record)⟩, after.withRecord
          (site.record ++ [.connect site.target.descriptor.text (.done ())])) := by
      rw [h.connector_eq]
      simp only [Connector.audited, Scene.recording, hconnect]
      rfl
    rw [setup_of_done haudited]
    have hconfigure : Step.Keeps (InOrder c (site.target.held ++ lost)) (configure ctx) :=
      fun site h => (configure_inOrder h ctx).1
    refine hconfigure.undoing close_keeps _ ⟨h.connector_eq, ?_, ?_⟩
    · intro traced htraced
      cases htraced
      exact ⟨_, rfl⟩
    · -- The session held before is overwritten, and from here on counts as lost.
      exact h.accounts.connect site.target.descriptor.text
  · simp [Outcome.isDone] at hdone
  · simp [Outcome.isDone] at hdone

theorem setup_inOrder_of_not_done {site : Site (Audited σ) (Traced τ)} {ctx : ContextId}
    (h : InOrder c lost site)
    (hdone : (c.connect ctx site.target.descriptor.text site.scene.plain).1.isDone = false) :
    InOrder c lost (setup ctx site).2 ∧ (setup ctx site).2.target = site.target := by
  have haudited : (site.target.connector.connect ctx site.target.descriptor.text
      site.scene).1.isDone = false := by
    rw [h.connector_eq]
    rcases hconnect : c.connect ctx site.target.descriptor.text site.scene.plain with
      ⟨session | fault | note, after⟩ <;> rw [hconnect] at hdone
    · simp [Outcome.isDone] at hdone
    · simp only [Connector.audited, Scene.recording, hconnect, Outcome.map, Outcome.isDone]
    · simp only [Connector.audited, Scene.recording, hconnect, Outcome.map, Outcome.isDone]
  rw [setup_of_not_done haudited, h.connector_eq]
  refine ⟨⟨h.connector_eq, h.opened, ?_⟩, rfl⟩
  refine h.accounts.connect_of_not_done ?_ site.target.descriptor.text
  rcases hconnect : c.connect ctx site.target.descriptor.text site.scene.plain with
    ⟨session | fault | note, after⟩ <;> rw [hconnect] at hdone
  · simp [Outcome.isDone] at hdone
  · rfl
  · rfl

/-- A target that holds nothing takes hold of one session at most, and loses none. -/
theorem setup_inOrder_of_not_held {site : Site (Audited σ) (Traced τ)} (h : InOrder c lost site)
    (hheld : site.target.held = []) (ctx : ContextId) : InOrder c lost (setup ctx site).2 := by
  rcases hdone : (c.connect ctx site.target.descriptor.text site.scene.plain).1.isDone with _ | _
  · exact (setup_inOrder_of_not_done h hdone).1
  · have hafter := setup_inOrder_of_done h hdone
    rw [hheld, List.nil_append] at hafter
    exact hafter

/-- A session lent from outside takes the place of one opened, which is then lost. -/
theorem setupShared_inOrder {site : Site (Audited σ) (Traced τ)} (h : InOrder c lost site)
    (ctx : ContextId) (shared : Shared (Traced τ)) :
    InOrder c (site.target.held ++ lost) (setupShared ctx shared site).2 := by
  let lost' := site.target.held ++ lost
  have hconfigure : Step.Keeps (fun site => InOrder c lost' site ∧ site.target.held = [])
      (configure ctx) := by
    intro site ⟨h, hheld⟩
    obtain ⟨hafter, hhold⟩ := configure_inOrder h ctx
    refine ⟨hafter, ?_⟩
    rw [held, hhold]
    exact hheld
  -- What is let go of was lent, so nothing held is lost with it.
  have htake : Step.Keeps (fun site => InOrder c lost' site ∧ site.target.held = [])
      (take none) := by
    intro site ⟨h, hheld⟩
    have haccounts := h.accounts
    rw [hheld] at haccounts
    refine ⟨⟨h.connector_eq, fun traced htraced => ?_, haccounts⟩, rfl⟩
    cases htraced
  have htaken : InOrder c lost'
      { site with target := { site.target with hold := some (.lent shared) } } := by
    refine ⟨h.connector_eq, fun traced htraced => ?_, h.accounts⟩
    cases htraced
  exact (hconfigure.undoing htake _ ⟨htaken, rfl⟩).1

end Target

end PgVitals

import PgVitals.Proofs.Lockstep
import PgVitals.Proofs.Server.Directed
import PgVitals.Proofs.Target.Sessions

/-!
# How a target is set up

Setting a target up opens a session, sends the timeout if there is one, and asks for the version,
a second time only if the first answer came and cannot be read.  The courses that this can take are
laid down here as relations between the statements sent, with their answers, and what comes of them;
setting up follows one of these courses whatever the server does.  In each of them the session is
told its timeout first.
-/

namespace PgVitals

variable {σ τ α β : Type}

theorem Outcome.ne_done_of_not_done {outcome : Outcome α} (h : outcome.isDone = false) (value : α) :
    outcome ≠ .done value := by
  rintro rfl
  cases h

/-- Both ended in the same way, without a value. -/
def Outcome.BreaksAs (outcome : Outcome α) (outcome' : Outcome β) : Prop :=
  outcome.Related (fun _ _ => False) outcome'

namespace Outcome.BreaksAs

variable {outcome : Outcome α} {outcome' : Outcome β}

theorem isDone_eq (h : outcome.BreaksAs outcome') : outcome'.isDone = false := by
  cases h with
  | done h => exact h.elim
  | failed fault => rfl
  | crashed note => rfl

/-- Of what value there would have been does not matter. -/
theorem map_left (h : outcome.BreaksAs outcome') {γ : Type} (f : α → γ) :
    (outcome.map f).BreaksAs outcome' := by
  cases h with
  | done h => exact h.elim
  | failed fault => exact .failed fault
  | crashed note => exact .crashed note

theorem of_failed {fault : Fault} (h : outcome = .failed fault) :
    outcome.BreaksAs (.failed fault : Outcome β) := by
  rw [h]
  exact .failed fault

theorem of_crashed {note : Option String} (h : outcome = .crashed note) :
    outcome.BreaksAs (.crashed note : Outcome β) := by
  rw [h]
  exact .crashed note

end Outcome.BreaksAs

/-! ## Courses -/

/-- The text that an answer gives: the first column of the first row, none if that is NULL or there
is no row. -/
def textOf : Outcome (List Row) → Outcome (Option String)
  | .done [] => .done none
  | .done (⟨[]⟩ :: _) => .failed (.scanFailed "column 0 out of range (0 columns)")
  | .done (⟨cell :: _⟩ :: _) => .done cell
  | .failed fault => .failed fault
  | .crashed note => .crashed note

/-- The questions for the version with their answers, and what comes of them.  The second question
is asked if the first was answered by no row, by NULL, or by a text that cannot be read; a question
without an answer ends it. -/
inductive Inquiry : List Sent → Outcome ServerVersion → Prop where
  | verbose {first : Outcome (List Row)} {text : String} {version : ServerVersion}
    (hfirst : textOf first = .done (some text))
    (hread : ServerVersion.readVerbose? text = some version) :
    Inquiry [(versionStatement, first)] (.done version)
  | unanswered {first : Outcome (List Row)} {outcome : Outcome ServerVersion}
    (hfirst : (textOf first).BreaksAs outcome) : Inquiry [(versionStatement, first)] outcome
  | bare {first second : Outcome (List Row)} {unread : Option String} {text : String}
    {version : ServerVersion} (hfirst : textOf first = .done unread)
    (hunread : unread.bind ServerVersion.readVerbose? = none)
    (hsecond : textOf second = .done (some text))
    (hread : ServerVersion.readBare? text = some version) :
    Inquiry [(versionStatement, first), (serverVersionStatement, second)] (.done version)
  | unansweredAgain {first second : Outcome (List Row)} {unread : Option String}
    {outcome : Outcome ServerVersion} (hfirst : textOf first = .done unread)
    (hunread : unread.bind ServerVersion.readVerbose? = none)
    (hsecond : (textOf second).BreaksAs outcome) :
    Inquiry [(versionStatement, first), (serverVersionStatement, second)] outcome
  | unreadable {first second : Outcome (List Row)} {unread unread' : Option String}
    (hfirst : textOf first = .done unread) (hunread : unread.bind ServerVersion.readVerbose? = none)
    (hsecond : textOf second = .done unread')
    (hunread' : unread'.bind ServerVersion.readBare? = none) :
    Inquiry [(versionStatement, first), (serverVersionStatement, second)]
      (.failed (.versionUnparseable ((unread'.or unread).getD "")))

/-- The statements that configure a session under a timeout, and the version that comes of them. -/
inductive Course (timeout : Nat) : List Sent → Outcome ServerVersion → Prop where
  | untimed {questions : List Sent} {outcome : Outcome ServerVersion} (htimeout : timeout = 0)
    (inquiry : Inquiry questions outcome) : Course timeout questions outcome
  | timed {questions : List Sent} {outcome : Outcome ServerVersion} (htimeout : timeout ≠ 0)
    (rows : List Row) (inquiry : Inquiry questions outcome) :
    Course timeout ((timeoutStatement timeout, .done rows) :: questions) outcome
  | undirected {ending : Outcome (List Row)} {outcome : Outcome ServerVersion}
    (htimeout : timeout ≠ 0) (hending : (ending.mapFault timeoutFault).BreaksAs outcome) :
    Course timeout [(timeoutStatement timeout, ending)] outcome

/-- The calls that set a target up, whose session is the `n`-th if it is opened, and the version
that comes of them.  The session is closed unless there is one. -/
inductive Opening (descriptor : String) (timeout n : Nat) :
    List Event → Outcome ServerVersion → Prop where
  | refused {ending : Outcome Unit} {outcome : Outcome ServerVersion}
    (hending : ending.BreaksAs outcome) :
    Opening descriptor timeout n [.connect descriptor ending] outcome
  | known {statements : List Sent} {version : ServerVersion}
    (course : Course timeout statements (.done version)) :
    Opening descriptor timeout n
      (.connect descriptor (.done ()) :: statements.map (.ofSent (.opened n))) (.done version)
  | givenUp {statements : List Sent} {outcome : Outcome ServerVersion}
    (course : Course timeout statements outcome) (houtcome : outcome.isDone = false)
    (closing : Outcome Unit) :
    Opening descriptor timeout n
      (.connect descriptor (.done ()) :: statements.map (.ofSent (.opened n)) ++
        [.close (.opened n) closing]) (outcome.closedWith closing)

/-! ## The timeout comes first -/

theorem Inquiry.setsNoTimeout {questions : List Sent} {outcome : Outcome ServerVersion}
    (h : Inquiry questions outcome) : ∀ p ∈ questions, SetsNoTimeout p.1 := by
  have hverbose : SetsNoTimeout versionStatement := ne_timeoutStatement (by decide)
  have hbare : SetsNoTimeout serverVersionStatement := ne_timeoutStatement (by decide)
  cases h with
  | verbose hfirst hread => exact List.forall_mem_singleton.2 hverbose
  | unanswered hfirst => exact List.forall_mem_singleton.2 hverbose
  | bare => exact List.forall_mem_cons.2 ⟨hverbose, List.forall_mem_singleton.2 hbare⟩
  | unansweredAgain => exact List.forall_mem_cons.2 ⟨hverbose, List.forall_mem_singleton.2 hbare⟩
  | unreadable => exact List.forall_mem_cons.2 ⟨hverbose, List.forall_mem_singleton.2 hbare⟩

section

variable {descriptor : String} {timeout : Nat} {record : List Event}

/-- A session that is opened and follows a course is told its timeout first, and takes further
statements once the version is known. -/
theorem Course.directed {statements : List Sent} {outcome : Outcome ServerVersion}
    (h : Course timeout statements outcome) (hrecord : Directed timeout record) :
    let opened := record ++
      .connect descriptor (.done ()) :: statements.map (.ofSent (.opened (openings record)))
    Directed timeout opened ∧ (outcome.isDone = true → Obeys timeout (openings record) opened) := by
  intro opened
  cases h with
  | untimed htimeout inquiry =>
    obtain ⟨hconnected, hobeys⟩ := hrecord.connect_untimed htimeout descriptor
    have hopened : opened = (record ++ [.connect descriptor (.done ())]) ++
        statements.map (.ofSent (.opened (openings record))) := by
      rw [List.append_assoc]
      rfl
    rw [hopened]
    exact ⟨hconnected.queries inquiry.setsNoTimeout hobeys, fun _ => hobeys.append _⟩
  | @timed questions _ htimeout rows inquiry =>
    obtain ⟨hconnected, hobeys⟩ := hrecord.connect_timed htimeout descriptor (.done rows)
    have hopened : opened = (record ++ [.connect descriptor (.done ()),
        .query (.opened (openings record)) (timeoutStatement timeout) (.done rows)]) ++
          questions.map (.ofSent (.opened (openings record))) := by
      rw [List.append_assoc]
      rfl
    rw [hopened]
    exact ⟨hconnected.queries inquiry.setsNoTimeout (hobeys rfl), fun _ => (hobeys rfl).append _⟩
  | @undirected ending _ htimeout hending =>
    obtain ⟨hconnected, -⟩ := hrecord.connect_timed htimeout descriptor ending
    refine ⟨hconnected, fun hdone => ?_⟩
    rw [hending.isDone_eq] at hdone
    cases hdone

/-- A session on which a target is set up is told its timeout first, and takes further statements
once the version is known. -/
theorem Opening.directed {calls : List Event} {outcome : Outcome ServerVersion}
    (h : Opening descriptor timeout (openings record) calls outcome)
    (hrecord : Directed timeout record) :
    Directed timeout (record ++ calls) ∧
      (outcome.isDone = true → Obeys timeout (openings record) (record ++ calls)) := by
  cases h with
  | @refused ending _ hending =>
    have hnot : ending.isDone = false := by
      cases hending with
      | done h => exact h.elim
      | failed fault => rfl
      | crashed note => rfl
    refine ⟨hrecord.connect_of_not_done hnot descriptor, fun hdone => ?_⟩
    rw [hending.isDone_eq] at hdone
    cases hdone
  | known course => exact course.directed hrecord
  | givenUp course houtcome closing =>
    refine ⟨?_, fun hdone => ?_⟩
    · rw [← List.append_assoc]
      exact (course.directed hrecord).1.close _ closing
    · rw [Outcome.isDone_closedWith_of_not_done houtcome] at hdone
      cases hdone

end

/-! ## Setting up follows a course -/

/-- The target with the version that was found out, if one was. -/
def Target.knowing (t : Target σ τ) : Outcome ServerVersion → Target σ τ
  | .done version => { t with version := version }
  | _ => t

namespace Target

variable {c : Connector σ τ} {site : Site (Audited σ) (Traced τ)} {traced : Traced τ}

/-- A statement on a session held is one call. -/
theorem query_sends (hconnector : site.target.connector = c.audited)
    (hhold : site.target.hold = some (.owned traced)) (ctx : ContextId) (sql : String) :
    ∃ ending after, query ctx sql site = (ending, after) ∧ after.target = site.target ∧
      after.record = site.record ++ [.ofSent traced.origin (sql, ending)] := by
  rw [query_of_owned hhold, hconnector]
  exact ⟨_, _, rfl, rfl, rfl⟩

theorem execute_sends (hconnector : site.target.connector = c.audited)
    (hhold : site.target.hold = some (.owned traced)) (ctx : ContextId) (sql : String) :
    ∃ ending after, execute ctx sql site = (ending.map fun _ => (), after) ∧
      after.target = site.target ∧
      after.record = site.record ++ [.ofSent traced.origin (sql, ending)] := by
  obtain ⟨ending, after, hquery, hafter⟩ := query_sends hconnector hhold ctx sql
  refine ⟨ending, after, ?_, hafter⟩
  cases ending with
  | done rows => exact Step.bind_of_done hquery
  | failed fault => exact Step.bind_of_failed hquery
  | crashed note => exact Step.bind_of_crashed hquery

/-- Of an answer the first column of the first row is taken. -/
theorem singleText_of_query {site after : Site σ τ} {ctx : ContextId} {sql : String}
    {ending : Outcome (List Row)} (h : query ctx sql site = (ending, after)) :
    singleText ctx sql site = (textOf ending, after) := by
  cases ending with
  | failed fault => exact Step.bind_of_failed h
  | crashed note => exact Step.bind_of_crashed h
  | done rows =>
    rw [singleText, Step.bind_of_done h]
    rcases rows with _ | ⟨⟨_ | ⟨cell, cells⟩⟩, rest⟩ <;> rfl

theorem singleText_sends (hconnector : site.target.connector = c.audited)
    (hhold : site.target.hold = some (.owned traced)) (ctx : ContextId) (sql : String) :
    ∃ ending after, singleText ctx sql site = (textOf ending, after) ∧ after.target = site.target ∧
      after.record = site.record ++ [.ofSent traced.origin (sql, ending)] := by
  obtain ⟨ending, after, hquery, hafter⟩ := query_sends hconnector hhold ctx sql
  exact ⟨ending, after, singleText_of_query hquery, hafter⟩

/-- Asking for the version follows an inquiry and leaves the target as it is. -/
theorem detectVersion_sends (hconnector : site.target.connector = c.audited)
    (hhold : site.target.hold = some (.owned traced)) (ctx : ContextId) :
    ∃ questions version after, detectVersion ctx site = (version, after) ∧
      Inquiry questions version ∧ after.target = site.target ∧
      after.record = site.record ++ questions.map (.ofSent traced.origin) := by
  obtain ⟨first, asked, hasked, htarget, hrecord⟩ :=
    singleText_sends hconnector hhold ctx versionStatement
  rw [detectVersion]
  rcases hfirst : textOf first with unread | fault | note <;> rw [hfirst] at hasked
  · rw [Step.bind_of_done hasked]
    rcases hread : unread.bind ServerVersion.readVerbose? with _ | version
    · -- The first answer came and cannot be read, so the second question is asked.
      obtain ⟨second, again, hagain, htarget', hrecord'⟩ :=
        singleText_sends (by rw [htarget, hconnector]) (by rw [htarget, hhold]) ctx
          serverVersionStatement
      have hkept : again.target = site.target := htarget'.trans htarget
      have hall : again.record = site.record ++ [(versionStatement, first),
          (serverVersionStatement, second)].map (.ofSent traced.origin) := by
        rw [hrecord', hrecord, List.append_assoc]
        rfl
      rcases hsecond : textOf second with unread' | fault | note <;> rw [hsecond] at hagain
      · simp only [Step.bind_of_done hagain]
        rcases hread' : unread'.bind ServerVersion.readBare? with _ | version
        · exact ⟨_, _, _, rfl, .unreadable hfirst hread hsecond hread', hkept, hall⟩
        · obtain ⟨text, rfl, hread'⟩ := Option.bind_eq_some_iff.1 hread'
          exact ⟨_, _, _, rfl, .bare hfirst hread hsecond hread', hkept, hall⟩
      · simp only [Step.bind_of_failed hagain]
        exact ⟨_, _, _, rfl, .unansweredAgain hfirst hread (.of_failed hsecond), hkept, hall⟩
      · simp only [Step.bind_of_crashed hagain]
        exact ⟨_, _, _, rfl, .unansweredAgain hfirst hread (.of_crashed hsecond), hkept, hall⟩
    · obtain ⟨text, rfl, hread⟩ := Option.bind_eq_some_iff.1 hread
      exact ⟨_, _, _, rfl, .verbose hfirst hread, htarget, hrecord⟩
  · rw [Step.bind_of_failed hasked]
    exact ⟨_, _, _, rfl, .unanswered (.of_failed hfirst), htarget, hrecord⟩
  · rw [Step.bind_of_crashed hasked]
    exact ⟨_, _, _, rfl, .unanswered (.of_crashed hfirst), htarget, hrecord⟩

/-- Asks for the version and notes it. -/
def learnVersion (ctx : ContextId) : Step (Site σ τ) Unit := do
  let version ← detectVersion ctx
  Step.update fun site => { site with target := { site.target with version := version } }

theorem configure_untimed {site : Site σ τ} (h : site.target.statementTimeout = 0)
    (ctx : ContextId) : configure ctx site = learnVersion ctx site := by
  have hthis : this site = (.done site.target, site) := rfl
  rw [configure, Step.bind_of_done hthis, if_neg (not_not_intro h)]
  rfl

theorem configure_timed {site : Site σ τ} (h : site.target.statementTimeout ≠ 0)
    (ctx : ContextId) :
    configure ctx site =
      ((execute ctx (timeoutStatement site.target.statementTimeout)).mapFault timeoutFault >>=
        fun _ => learnVersion ctx) site := by
  have hthis : this site = (.done site.target, site) := rfl
  rw [configure, Step.bind_of_done hthis, if_pos h]
  rfl

theorem learnVersion_sends (hconnector : site.target.connector = c.audited)
    (hhold : site.target.hold = some (.owned traced)) (ctx : ContextId) :
    ∃ questions version after, learnVersion ctx site = (version.map fun _ => (), after) ∧
      Inquiry questions version ∧ after.target = site.target.knowing version ∧
      after.record = site.record ++ questions.map (.ofSent traced.origin) := by
  obtain ⟨questions, version, after, hdetect, hinquiry, htarget, hrecord⟩ :=
    detectVersion_sends hconnector hhold ctx
  rw [learnVersion]
  cases version with
  | done version =>
    have hknown : { after.target with version := version } =
        site.target.knowing (.done version) := by
      rw [htarget]
      rfl
    exact ⟨_, .done version, _, Step.bind_of_done hdetect, hinquiry, hknown, hrecord⟩
  | failed fault => exact ⟨_, _, _, Step.bind_of_failed hdetect, hinquiry, htarget, hrecord⟩
  | crashed note => exact ⟨_, _, _, Step.bind_of_crashed hdetect, hinquiry, htarget, hrecord⟩

/-- Configuring a target follows a course, and the target knows the version that comes of it. -/
theorem configure_sends (hconnector : site.target.connector = c.audited)
    (hhold : site.target.hold = some (.owned traced)) (ctx : ContextId) :
    ∃ statements version after, configure ctx site = (version.map fun _ => (), after) ∧
      Course site.target.statementTimeout statements version ∧
      after.target = site.target.knowing version ∧
      after.record = site.record ++ statements.map (.ofSent traced.origin) := by
  by_cases htimeout : site.target.statementTimeout = 0
  · rw [configure_untimed htimeout]
    obtain ⟨questions, version, after, hlearn, hinquiry, htarget, hrecord⟩ :=
      learnVersion_sends hconnector hhold ctx
    exact ⟨questions, version, after, hlearn, .untimed htimeout hinquiry, htarget, hrecord⟩
  · obtain ⟨ending, directed, hexecute, htarget, hrecord⟩ :=
      execute_sends hconnector hhold ctx (timeoutStatement site.target.statementTimeout)
    have hsent : (execute ctx (timeoutStatement site.target.statementTimeout)).mapFault timeoutFault
        site = ((ending.mapFault timeoutFault).map fun _ => (), directed) := by
      rw [Step.mapFault, hexecute]
      cases ending <;> rfl
    rw [configure_timed htimeout]
    cases ending with
    | done rows =>
      obtain ⟨questions, version, after, hlearn, hinquiry, hknown, hasked⟩ :=
        learnVersion_sends (by rw [htarget, hconnector]) (by rw [htarget, hhold]) ctx
      refine ⟨_, version, after, (Step.bind_of_done hsent).trans hlearn,
        .timed htimeout rows hinquiry, by rw [hknown, htarget], ?_⟩
      rw [hasked, hrecord, List.append_assoc]
      rfl
    | failed fault =>
      have hbreaks : ((Outcome.failed fault : Outcome (List Row)).mapFault timeoutFault).BreaksAs
          (.failed (timeoutFault fault) : Outcome ServerVersion) := .failed _
      exact ⟨_, _, _, Step.bind_of_failed hsent, .undirected htimeout hbreaks, htarget, hrecord⟩
    | crashed note =>
      have hbreaks : ((Outcome.crashed note : Outcome (List Row)).mapFault timeoutFault).BreaksAs
          (.crashed note : Outcome ServerVersion) := .crashed note
      exact ⟨_, _, _, Step.bind_of_crashed hsent, .undirected htimeout hbreaks, htarget, hrecord⟩

/-- The target is set up for a template on the `n`-th session opened. -/
structure SetUpOn (c : Connector σ τ) (t template : Target (Audited σ) (Traced τ)) (n : Nat) :
    Prop where
  connector_eq : t.connector = c.audited
  descriptor_eq : t.descriptor = template.descriptor
  statementTimeout_eq : t.statementTimeout = template.statementTimeout
  hold : ∃ session, t.hold = some (.owned ⟨session, .opened n⟩)

/-- Closing a target that holds a session is one call. -/
theorem close_sends (hconnector : site.target.connector = c.audited)
    (hhold : site.target.hold = some (.owned traced)) :
    ∃ closing after, close site = (closing, after) ∧ after.target.hold = none ∧
      after.record = site.record ++ [.close traced.origin closing] := by
  rw [close_of_owned hhold, hconnector]
  exact ⟨_, _, rfl, rfl, rfl⟩

/-- Releasing a target that holds nothing changes nothing. -/
theorem scene_release_of_not_held {site : Site σ τ} (h : site.target.hold = none) :
    (release site).2.scene = site.scene := by
  have howns : site.target.ownsSession = false := by
    rw [ownsSession, h]
  rw [release_eq, close_of_not_owned howns]

theorem openCopy_of_done {template : Target σ τ} {ctx : ContextId} {scene : Scene σ}
    {site : Site σ τ} (h : setup ctx ⟨template.template, scene⟩ = (.done (), site)) :
    openCopy template ctx scene = (.done site.target, site.scene) := by
  rw [openCopy, h]

theorem openCopy_of_not_done {template : Target σ τ} {ctx : ContextId} {scene : Scene σ}
    {site : Site σ τ} {outcome : Outcome Unit} (houtcome : outcome.isDone = false)
    (h : setup ctx ⟨template.template, scene⟩ = (outcome, site)) :
    openCopy template ctx scene = (outcome.map fun _ => site.target, (release site).2.scene) := by
  rw [openCopy, h]
  cases outcome with
  | done value => cases houtcome
  | failed fault => rfl
  | crashed note => rfl

theorem isDone_openCopy (template : Target σ τ) (ctx : ContextId) (scene : Scene σ) :
    (openCopy template ctx scene).1.isDone = (setup ctx ⟨template.template, scene⟩).1.isDone := by
  rw [openCopy]
  rcases setup ctx ⟨template.template, scene⟩ with ⟨value | fault | note, site⟩ <;> rfl

/-- A target is not set up when no session can be opened. -/
theorem setup_of_refused {site : Site σ τ} {ctx : ContextId} {ending : Outcome τ} {after : Scene σ}
    (hending : ending.isDone = false)
    (h : site.target.connector.connect ctx site.target.descriptor.text site.scene =
      (ending, after)) :
    setup ctx site = (ending.map fun _ => (), { site with scene := after }) := by
  cases ending with
  | done session => cases hending
  | failed fault => exact (Step.bind_of_failed (onScene_of h)).trans rfl
  | crashed note => exact (Step.bind_of_crashed (onScene_of h)).trans rfl

theorem openCopy_of_refused {template : Target σ τ} {ctx : ContextId} {scene after : Scene σ}
    {ending : Outcome τ} (hending : ending.isDone = false)
    (h : template.connector.connect ctx template.descriptor.text scene = (ending, after)) :
    openCopy template ctx scene = (ending.map fun _ => template.template, after) := by
  have hsetup : setup ctx ⟨template.template, scene⟩ =
      (ending.map fun _ => (), { target := template.template, scene := after }) :=
    setup_of_refused hending h
  have hnot : (ending.map fun _ => ()).isDone = false := by rw [Outcome.isDone_map, hending]
  have hnone : template.template.hold = none := rfl
  rw [openCopy_of_not_done hnot hsetup, scene_release_of_not_held hnone]
  cases ending <;> rfl

/-- What the calls made of a copy of the template: its version or how it was given up, and a target
on the session opened. -/
structure IsOpening (c : Connector σ τ) (template : Target (Audited σ) (Traced τ))
    (scene : Scene (Audited σ))
    (ran : Outcome (Target (Audited σ) (Traced τ)) × Scene (Audited σ)) (calls : List Event) :
    Prop where
  opening : Opening template.descriptor.text template.statementTimeout
    (openings scene.server.record) calls (ran.1.map version)
  record_eq : ran.2.server.record = scene.server.record ++ calls
  setUpOn : ∀ t, ran.1 = .done t → t.SetUpOn c template (openings scene.server.record)

section

variable {template : Target (Audited σ) (Traced τ)} {ctx : ContextId}
  {scene opened : Scene (Audited σ)}

theorem isOpening_of_refused {ending : Outcome (Traced τ)} (hending : ending.isDone = false)
    (hconnect : template.connector.connect ctx template.descriptor.text scene = (ending, opened))
    (hopened : opened.server.record = scene.server.record ++
      [.connect template.descriptor.text (ending.map fun _ => ())]) :
    IsOpening c template scene (openCopy template ctx scene)
      [.connect template.descriptor.text (ending.map fun _ => ())] := by
  rw [openCopy_of_refused hending hconnect]
  refine ⟨.refused ?_, hopened, fun t ht => ?_⟩
  · cases ending with
    | done traced => cases hending
    | failed fault => exact .failed fault
    | crashed note => exact .crashed note
  · exact absurd ht (Outcome.ne_done_of_not_done ((Outcome.isDone_map _ _).trans hending) t)

/-- Once a session is open, the copy is configured on it; if that does not succeed the session is
closed, after a fault by the setting up and after a crash by the release of the copy. -/
theorem isOpening_of_connected {session : τ} (hconnector : template.connector = c.audited)
    (hconnect : template.connector.connect ctx template.descriptor.text scene =
      (.done ⟨session, .opened (openings scene.server.record)⟩, opened))
    (hopened : opened.server.record = scene.server.record ++
      [.connect template.descriptor.text (.done ())]) :
    ∃ calls, IsOpening c template scene (openCopy template ctx scene) calls := by
  let n := openings scene.server.record
  let site : Site (Audited σ) (Traced τ) :=
    { target := { template.template with hold := some (.owned ⟨session, .opened n⟩) },
      scene := opened }
  have hsite : site.target.connector = c.audited := hconnector
  have hhold : site.target.hold = some (.owned ⟨session, .opened n⟩) := rfl
  have hsetup : setup ctx ⟨template.template, scene⟩ = ((configure ctx).undoing close) site :=
    setup_of_done hconnect
  obtain ⟨statements, version, after, hconfigure, hcourse, htarget, hrecord⟩ :=
    configure_sends hsite hhold ctx
  rw [Step.undoing_eq, hconfigure] at hsetup
  let sent : List Event :=
    .connect template.descriptor.text (.done ()) :: statements.map (.ofSent (.opened n))
  have hafter : after.record = scene.server.record ++ sent := by
    rw [hrecord, Site.record, hopened, List.append_assoc]
    rfl
  cases version with
  | done version =>
    rw [openCopy_of_done hsetup]
    have hversion : after.target.version = version := by rw [htarget]; rfl
    refine ⟨sent, ⟨?_, hafter, ?_⟩⟩
    · rw [Outcome.map, hversion]
      exact .known hcourse
    · rintro t ⟨⟩
      rw [htarget]
      exact ⟨hconnector, rfl, rfl, session, rfl⟩
  | failed fault =>
    obtain ⟨closing, final, hclose, hnone, hclosed⟩ :=
      close_sends (by rw [htarget]; exact hsite) (by rw [htarget]; exact hhold)
    have hended : setup ctx ⟨template.template, scene⟩ =
        ((Outcome.failed fault).closedWith closing, final) := by
      rw [hsetup]
      change ((Outcome.failed fault).closedWith (close after).1, (close after).2) = _
      rw [hclose]
    have hnot : ((Outcome.failed fault : Outcome Unit).closedWith closing).isDone = false :=
      Outcome.isDone_closedWith_of_not_done rfl closing
    -- The failed setup has closed the session, and there is nothing left to release.
    rw [openCopy_of_not_done hnot hended, scene_release_of_not_held hnone]
    refine ⟨sent ++ [.close (.opened n) closing], ⟨?_, hclosed.trans ?_, fun t ht => ?_⟩⟩
    · rw [Outcome.map_closedWith, Outcome.map_closedWith]
      exact .givenUp hcourse rfl closing
    · rw [hafter, List.append_assoc]
    · exact absurd ht (Outcome.ne_done_of_not_done ((Outcome.isDone_map _ _).trans hnot) t)
  | crashed note =>
    obtain ⟨closing, final, hclose, -, hclosed⟩ :=
      close_sends (by rw [htarget]; exact hsite) (by rw [htarget]; exact hhold)
    have hended : setup ctx ⟨template.template, scene⟩ = (.crashed note, after) := hsetup
    -- A crash is not undone: it is the dropped target that closes the session.
    rw [openCopy_of_not_done rfl hended, release_eq, hclose]
    refine ⟨sent ++ [.close (.opened n) closing],
      ⟨?_, hclosed.trans ?_, fun t ht => by cases ht⟩⟩
    · have houtcome : (Outcome.crashed note : Outcome ServerVersion) =
          (Outcome.crashed note).closedWith closing := by cases closing <;> rfl
      rw [Outcome.map, Outcome.map, houtcome]
      exact .givenUp hcourse rfl closing
    · rw [hafter, List.append_assoc]

/-- Setting up a copy of a template follows its course. -/
theorem openCopy_isOpening (hconnector : template.connector = c.audited) (ctx : ContextId)
    (scene : Scene (Audited σ)) :
    ∃ calls, IsOpening c template scene (openCopy template ctx scene) calls := by
  obtain ⟨ending, opened, hconnect, horigin, hopened⟩ :=
    c.audited_connect scene ctx template.descriptor.text
  rw [← hconnector] at hconnect
  cases hdone : ending.isDone with
  | false => exact ⟨_, isOpening_of_refused hdone hconnect hopened⟩
  | true =>
    obtain ⟨⟨session, origin⟩, rfl⟩ := Outcome.exists_of_isDone hdone
    obtain rfl : origin = .opened (openings scene.server.record) := horigin _ rfl
    exact isOpening_of_connected hconnector hconnect hopened

end

end Target

end PgVitals

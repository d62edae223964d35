import PgVitals.Collector.Extensions
import PgVitals.Proofs.Target.Sessions

/-!
# Scanning one database

A scan of a database for extensions makes its calls in one of a few ways, which are the visits: no
session is opened, or the timeout cannot be set, or the statement is sent.  A visit determines the
calls in the record and how the scan ends.  The session of a visit is closed in every case, so the
balance of the record stays what it was.
-/

namespace PgVitals

variable {σ τ : Type}

/-! ## Siblings -/

namespace Sibling

variable {t : Target σ τ} {ctx : ContextId} {database : String} {s after final : Scene σ}
  {session : τ}

theorem connect_of_not_done {ending : Outcome τ} (hending : ending.isDone = false)
    (h : t.connector.connect ctx (t.descriptor.retarget database).text s = (ending, after)) :
    connect t ctx database s = (ending.map fun session => ⟨database, some session⟩, after) := by
  cases ending with
  | done session => simp [Outcome.isDone] at hending
  | failed fault => exact Step.bind_of_failed h
  | crashed note => exact Step.bind_of_crashed h

theorem connect_untimed (htimeout : t.statementTimeout = 0)
    (h : t.connector.connect ctx (t.descriptor.retarget database).text s = (.done session, after)) :
    connect t ctx database s = (.done ⟨database, some session⟩, after) := by
  rw [connect, Step.bind_of_done h, if_neg (not_not_intro htimeout)]
  rfl

/-- The session is closed unless the timeout could be set. -/
theorem connect_timed (htimeout : t.statementTimeout ≠ 0) {ending : Outcome (List Row)}
    (h : t.connector.connect ctx (t.descriptor.retarget database).text s = (.done session, after))
    (hquery : t.connector.query session ctx (timeoutStatement t.statementTimeout) after =
      (ending, final)) :
    connect t ctx database s =
      if ending.isDone then (.done ⟨database, some session⟩, final)
      else
        (((ending.mapFault timeoutFault).map fun _ => ⟨database, some session⟩).closedWith
            (t.connector.close session final).1, (t.connector.close session final).2) := by
  have hsent : ((t.connector.query session ctx (timeoutStatement t.statementTimeout)).mapFault
      timeoutFault).attempt after = (.done (ending.mapFault timeoutFault), final) := by
    rw [Step.attempt, Step.mapFault, hquery]
  rw [connect, Step.bind_of_done h, if_pos htimeout, Step.bind_of_done hsent]
  -- A timeout that is not set closes the session; whether the closing crashes is told last.
  cases ending with
  | done rows => rfl
  | failed fault => exact Step.ensuring_eq _ _ _
  | crashed note => exact Step.ensuring_eq _ _ _

end Sibling

namespace Extensions

/-! ## Rows that can be read -/

/-- A row with a first column, and a second one unless the first is NULL. -/
def isLegible (row : Row) : Bool :=
  match row.cells with
  | [] => false
  | none :: _ => true
  | some _ :: rest => !rest.isEmpty

/-- The name and the version in a row, unless the name is NULL; the version is empty for NULL. -/
def extensionOf? (row : Row) : Option (String × String) :=
  match row.cells with
  | some name :: version :: _ => some (name, version.getD "")
  | _ => none

theorem readExtensions_of_legible {rows : List Row} (h : rows.all isLegible = true) :
    readExtensions rows = .ok (rows.filterMap extensionOf?) := by
  induction rows with
  | nil => rfl
  | cons row rest ih =>
    obtain ⟨hrow, hrest⟩ := Bool.and_eq_true_iff.1 h
    rw [readExtensions]
    rcases row with ⟨_ | ⟨_ | name, _ | ⟨version, more⟩⟩⟩
    · simp [isLegible] at hrow
    · exact ih hrest
    · exact ih hrest
    · simp [isLegible] at hrow
    · change (readExtensions rest).map _ = _
      rw [ih hrest]
      rfl

theorem readExtensions_of_illegible {rows : List Row} (h : rows.all isLegible = false) :
    ∃ detail, readExtensions rows = .error (.scanFailed detail) := by
  induction rows with
  | nil => simp at h
  | cons row rest ih =>
    rw [List.all_cons, Bool.and_eq_false_iff] at h
    rw [readExtensions]
    rcases row with ⟨_ | ⟨_ | name, _ | ⟨version, more⟩⟩⟩
    · exact ⟨_, rfl⟩
    · exact ih (h.resolve_left (by simp [isLegible]))
    · exact ih (h.resolve_left (by simp [isLegible]))
    · exact ⟨_, rfl⟩
    · obtain ⟨detail, hrest⟩ := ih (h.resolve_left (by simp [isLegible]))
      refine ⟨detail, ?_⟩
      change (readExtensions rest).map _ = _
      rw [hrest]
      rfl

/-! ## Visits -/

/-- How a scan was received by the server. -/
inductive Reception where
  /-- No session was opened. -/
  | refused (ending : Outcome Unit)
  /-- The timeout could not be set. -/
  | undirected (ending : Outcome (List Row)) (closing : Outcome Unit)
  /-- The extensions were asked for, after the timeout had been set if there is one. -/
  | asked (directive : Option (List Row)) (answer : Outcome (List Row)) (closing : Outcome Unit)

/-- A scan of a database. -/
structure Visit where
  database : String
  reception : Reception

/-- The receptions under a timeout, zero for none. -/
def Reception.IsPossible (timeout : Nat) : Reception → Prop
  | refused ending => ending.isDone = false
  | undirected ending _ => timeout ≠ 0 ∧ ending.isDone = false
  | asked directive _ _ => directive.isSome = true ↔ timeout ≠ 0

namespace Visit

/-- The calls of a visit, whose session is the `n`-th if it is opened. -/
def calls (t : Target σ τ) (n : Nat) (v : Visit) : List Event :=
  let text := (t.descriptor.retarget v.database).text
  let directive := timeoutStatement t.statementTimeout
  match v.reception with
  | .refused ending => [.connect text ending]
  | .undirected ending closing =>
    [.connect text (.done ()), .query (.opened n) directive ending, .close (.opened n) closing]
  | .asked directed answer closing =>
    .connect text (.done ()) ::
      (directed.toList.map fun rows => .query (.opened n) directive (.done rows)) ++
      [.query (.opened n) extensionStatement answer, .close (.opened n) closing]

/-- What the visit found, if it succeeded: the session was opened, the timeout set, the statement
answered, and every row could be read. -/
def found? (v : Visit) : Option (List (String × String)) :=
  match v.reception with
  | .asked _ (.done rows) _ =>
    if rows.all isLegible then some (rows.filterMap extensionOf?) else none
  | _ => none

/-- What a scan makes of an answer. -/
def reading : Outcome (List Row) → Outcome (List (String × String))
  | .done rows => .ofExcept (readExtensions rows)
  | .failed fault => .failed fault
  | .crashed note => .crashed note

/-- How the scan ends. -/
def outcome (v : Visit) : Outcome (List (String × String)) :=
  match v.reception with
  | .refused ending => ending.map fun _ => []
  | .undirected ending closing =>
    ((ending.mapFault timeoutFault).map fun _ => []).closedWith closing
  | .asked _ answer closing => (reading answer).closedWith closing

/-! ## What a visit makes of a scan -/

variable {t : Target σ τ} {n : Nat} {v : Visit}

theorem isCrashed_reading (answer : Outcome (List Row)) :
    (reading answer).isCrashed = answer.isCrashed := by
  cases answer with
  | done rows =>
    rw [reading]
    cases readExtensions rows <;> rfl
  | failed fault => rfl
  | crashed note => rfl

/-- The scan crashes when one of its calls does. -/
theorem isCrashed_outcome (v : Visit) (t : Target σ τ) (n : Nat) :
    v.outcome.isCrashed = crashes (v.calls t n) := by
  obtain ⟨database, ending | ⟨ending, closing⟩ | ⟨directed, answer, closing⟩⟩ := v
  · simp [outcome, calls, crashes, Event.isCrash]
  · simp [outcome, calls, crashes, Event.isCrash]
  · cases directed <;> simp [outcome, calls, crashes, Event.isCrash, isCrashed_reading]

/-- Without a crash the scan succeeds if the visit found something out, and else fails; it tells of
the end of a context only if one of its calls does. -/
theorem outcome_of_calm (hpossible : v.reception.IsPossible t.statementTimeout)
    (hcalm : crashes (v.calls t n) = false) :
    (∃ found, v.found? = some found ∧ v.outcome = .done found) ∨
      v.found? = none ∧ ∃ fault, v.outcome = .failed fault ∧
        (cancels (v.calls t n) = false → fault.isCancellation = false) := by
  -- The visit ended at the connection, at the timeout, or behind the question.
  obtain ⟨database, ending | ⟨ending, closing⟩ | ⟨directed, answer, closing⟩⟩ := v
  · cases ending with
    | done value => simp [Reception.IsPossible, Outcome.isDone] at hpossible
    | failed fault =>
      refine Or.inr ⟨rfl, fault, rfl, fun hlive => ?_⟩
      simpa [calls, cancels, Event.isCancelled] using hlive
    | crashed note => simp [calls, crashes, Event.isCrash] at hcalm
  · obtain ⟨-, hclosing⟩ : ending.isCrashed = false ∧ closing.isCrashed = false := by
      simpa [calls, crashes, Event.isCrash] using hcalm
    cases ending with
    | done value => simp [Reception.IsPossible, Outcome.isDone] at hpossible
    | failed fault =>
      refine Or.inr ⟨rfl, timeoutFault fault, ?_, fun hlive => ?_⟩
      · exact Outcome.closedWith_of_not_crashed _ hclosing
      · have hfault : fault.isCancellation = false := by
          simpa [calls, cancels, Event.isCancelled] using hlive
        rw [timeoutFault, hfault]
        rfl
    | crashed note => simp [calls, crashes, Event.isCrash] at hcalm
  · obtain ⟨-, hclosing⟩ : answer.isCrashed = false ∧ closing.isCrashed = false := by
      simpa [calls, crashes, Event.isCrash] using hcalm
    have houtcome : outcome ⟨database, .asked directed answer closing⟩ = reading answer :=
      Outcome.closedWith_of_not_crashed _ hclosing
    rw [houtcome]
    cases answer with
    | done rows =>
      rcases hlegible : rows.all isLegible with _ | _
      · obtain ⟨detail, hread⟩ := readExtensions_of_illegible hlegible
        refine Or.inr ⟨by simp [found?, hlegible], .scanFailed detail, ?_, fun _ => rfl⟩
        rw [reading, hread]
        rfl
      · refine Or.inl ⟨rows.filterMap extensionOf?, by simp [found?, hlegible], ?_⟩
        rw [reading, readExtensions_of_legible hlegible]
        rfl
    | failed fault =>
      refine Or.inr ⟨rfl, fault, rfl, fun hlive => ?_⟩
      simpa [calls, cancels, Event.isCancelled] using hlive
    | crashed note => simp [calls, crashes, Event.isCrash] at hcalm

/-- The session of a visit is closed. -/
theorem calls_accounts {record : List Event} {held : List Nat} (h : Accounts record held)
    (hpossible : v.reception.IsPossible t.statementTimeout) :
    Accounts (record ++ v.calls t (openings record)) held := by
  obtain ⟨database, ending | ⟨ending, closing⟩ | ⟨directed, answer, closing⟩⟩ := v
  · exact h.connect_of_not_done hpossible _
  · have hclosed := ((h.connect (t.descriptor.retarget database).text).query
      (.opened (openings record)) (timeoutStatement t.statementTimeout) ending).close closing
    simp only [List.append_assoc] at hclosed
    exact hclosed
  · have hopened := h.connect (t.descriptor.retarget database).text
    cases directed with
    | none =>
      have hclosed := (hopened.query (.opened (openings record)) extensionStatement answer).close
        closing
      simp only [List.append_assoc] at hclosed
      exact hclosed
    | some rows =>
      have hclosed := ((hopened.query (.opened (openings record))
        (timeoutStatement t.statementTimeout) (.done rows)).query (.opened (openings record))
          extensionStatement answer).close closing
      simp only [List.append_assoc] at hclosed
      exact hclosed

end Visit

/-! ## Scans -/

section

variable {ctx : ContextId} {database : String} {site : Site σ τ} {after final : Scene σ}

theorem scan_eq (ctx : ContextId) (database : String) (site : Site σ τ) :
    scan ctx database site =
      (Target.onScene (Sibling.connect site.target ctx database) >>= fun sibling =>
        Target.onScene
          ((sibling.query site.target.connector ctx extensionStatement >>= fun rows =>
              Step.ofExcept (readExtensions rows)).ensuring
            (sibling.close site.target.connector))) site :=
  rfl

theorem scan_of_not_done {ending : Outcome (Sibling τ)} (hending : ending.isDone = false)
    (h : Sibling.connect site.target ctx database site.scene = (ending, after)) :
    scan ctx database site = (ending.map fun _ => [], { site with scene := after }) := by
  rw [scan_eq]
  cases ending with
  | done sibling => simp [Outcome.isDone] at hending
  | failed fault => exact Step.bind_of_failed (Target.onScene_of h)
  | crashed note => exact Step.bind_of_crashed (Target.onScene_of h)

theorem scan_of_done {session : τ} {answer : Outcome (List Row)}
    (h : Sibling.connect site.target ctx database site.scene =
      (.done ⟨database, some session⟩, after))
    (hquery : site.target.connector.query session ctx extensionStatement after = (answer, final)) :
    scan ctx database site =
      ((Visit.reading answer).closedWith (site.target.connector.close session final).1,
        { site with scene := (site.target.connector.close session final).2 }) := by
  have hreading : (site.target.connector.query session ctx extensionStatement >>= fun rows =>
      Step.ofExcept (readExtensions rows)) after = (Visit.reading answer, final) := by
    cases answer with
    | done rows => rw [Step.bind_of_done hquery]; rfl
    | failed fault => rw [Step.bind_of_failed hquery]; rfl
    | crashed note => rw [Step.bind_of_crashed hquery]; rfl
  have hclosed := Step.ensuring_eq
    (site.target.connector.query session ctx extensionStatement >>= fun rows =>
      Step.ofExcept (readExtensions rows)) (site.target.connector.close session) after
  rw [hreading] at hclosed
  rw [scan_eq, Step.bind_of_done (Target.onScene_of h)]
  exact Target.onScene_of hclosed

end

section

variable {c : Connector σ τ} {site : Site (Audited σ) (Traced τ)} {ctx : ContextId}
  {database : String} {opened : Scene (Audited σ)} {traced : Traced τ} {events : List Event}

/-- Once the session can be used, the statement is sent and the session closed. -/
theorem scan_of_connected (h : site.target.connector = c.audited)
    (hsibling : Sibling.connect site.target ctx database site.scene =
      (.done ⟨database, some traced⟩, opened))
    (hopened : opened.server.record = site.record ++ events) :
    ∃ answer closing, (scan ctx database site).2.target = site.target ∧
      (scan ctx database site).2.record = site.record ++ (events ++
        [.query traced.origin extensionStatement answer, .close traced.origin closing]) ∧
      (scan ctx database site).1 = (Visit.reading answer).closedWith closing := by
  obtain ⟨answer, asked, hquery, hasked⟩ := c.audited_query opened traced ctx extensionStatement
  obtain ⟨closing, closed, hclose, hclosed⟩ := c.audited_close asked traced
  rw [← h] at hquery hclose
  rw [scan_of_done hsibling hquery, hclose]
  refine ⟨answer, closing, rfl, ?_, rfl⟩
  calc closed.server.record
      = site.record ++ events ++ [.query traced.origin extensionStatement answer] ++
          [.close traced.origin closing] := by rw [hclosed, hasked, hopened]
    _ = _ := by simp only [List.append_assoc, List.cons_append, List.nil_append]

/-- If the timeout cannot be set, the session is closed and nothing else is sent. -/
theorem scan_of_undirected (h : site.target.connector = c.audited) {text : String}
    {ending : Outcome (List Row)} (hending : ending.isDone = false)
    (hsibling : Sibling.connect site.target ctx database site.scene =
      (((ending.mapFault timeoutFault).map fun _ => ⟨database, some traced⟩).closedWith
          (site.target.connector.close traced opened).1,
        (site.target.connector.close traced opened).2))
    (hopened : opened.server.record =
      site.record ++ [.connect text (.done ()),
        .query traced.origin (timeoutStatement site.target.statementTimeout) ending]) :
    ∃ closing, (scan ctx database site).2.target = site.target ∧
      (scan ctx database site).2.record = site.record ++ [.connect text (.done ()),
        .query traced.origin (timeoutStatement site.target.statementTimeout) ending,
        .close traced.origin closing] ∧
      (scan ctx database site).1 =
        ((ending.mapFault timeoutFault).map fun _ => []).closedWith closing := by
  obtain ⟨closing, closed, hclose, hclosed⟩ := c.audited_close opened traced
  rw [h, hclose] at hsibling
  have hnot : ((ending.mapFault timeoutFault).map fun _ =>
      (⟨database, some traced⟩ : Sibling (Traced τ))).isDone = false := by
    rw [Outcome.isDone_map, Outcome.isDone_mapFault, hending]
  rw [scan_of_not_done (Outcome.isDone_closedWith_of_not_done hnot closing) hsibling]
  refine ⟨closing, rfl, ?_, ?_⟩
  · calc closed.server.record
        = opened.server.record ++ [.close traced.origin closing] := hclosed
      _ = _ := by
          rw [hopened, List.append_assoc]
          rfl
  · rw [Outcome.map_closedWith]
    cases ending <;> rfl

/-- A scan leaves the target as it is, and is a visit. -/
theorem scan_spec (h : site.target.connector = c.audited) (ctx : ContextId) (database : String) :
    ∃ v : Visit, v.database = database ∧
      v.reception.IsPossible site.target.statementTimeout ∧
      (scan ctx database site).2.target = site.target ∧
      (scan ctx database site).2.record =
        site.record ++ v.calls site.target (openings site.record) ∧
      (scan ctx database site).1 = v.outcome := by
  obtain ⟨ending, opened, hconnect, horigin, hopened⟩ :=
    c.audited_connect site.scene ctx (site.target.descriptor.retarget database).text
  rw [← h] at hconnect
  -- Three turns where a visit can leave: no session, a timeout not set, and the question.
  rcases hdone : ending.isDone with _ | _
  · have hsibling := Sibling.connect_of_not_done hdone hconnect
    rw [scan_of_not_done (by rw [Outcome.isDone_map, hdone]) hsibling]
    refine ⟨⟨database, .refused (ending.map fun _ => ())⟩, rfl, ?_, rfl, hopened, ?_⟩
    · exact (Outcome.isDone_map _ _).trans hdone
    · cases ending <;> rfl
  · obtain ⟨traced, rfl⟩ := Outcome.exists_of_isDone hdone
    have horigin := horigin traced rfl
    by_cases htimeout : site.target.statementTimeout = 0
    · obtain ⟨answer, closing, htarget, hrecord, houtcome⟩ :=
        scan_of_connected h (Sibling.connect_untimed htimeout hconnect) hopened
      rw [horigin] at hrecord
      refine ⟨⟨database, .asked none answer closing⟩, rfl, ?_, htarget, hrecord, houtcome⟩
      simp [Reception.IsPossible, htimeout]
    · obtain ⟨ending, directed, hquery, hdirected⟩ := c.audited_query opened traced ctx
        (timeoutStatement site.target.statementTimeout)
      rw [← h] at hquery
      have hrecord : directed.server.record = site.record ++
          [.connect (site.target.descriptor.retarget database).text (.done ()),
            .query traced.origin (timeoutStatement site.target.statementTimeout) ending] := by
        rw [hdirected, hopened, List.append_assoc]
        rfl
      have hsibling := Sibling.connect_timed htimeout hconnect hquery
      rcases hdone : ending.isDone with _ | _
      · rw [hdone, if_neg Bool.false_ne_true] at hsibling
        obtain ⟨closing, htarget, hrecord, houtcome⟩ :=
          scan_of_undirected h hdone hsibling hrecord
        rw [horigin] at hrecord
        exact ⟨⟨database, .undirected ending closing⟩, rfl, ⟨htimeout, hdone⟩, htarget, hrecord,
          houtcome⟩
      · rw [hdone, if_pos rfl] at hsibling
        obtain ⟨rows, rfl⟩ := Outcome.exists_of_isDone hdone
        obtain ⟨answer, closing, htarget, hrecord, houtcome⟩ :=
          scan_of_connected h hsibling hrecord
        rw [horigin] at hrecord
        refine ⟨⟨database, .asked (some rows) answer closing⟩, rfl, ?_, htarget, hrecord, houtcome⟩
        simp [Reception.IsPossible, htimeout]

theorem scan_keeps {lost : List Nat} (ctx : ContextId) (database : String) :
    Step.Keeps (InOrder c lost) (scan ctx database) := by
  intro site h
  obtain ⟨v, -, hpossible, htarget, hrecord, -⟩ := scan_spec h.connector_eq ctx database
  refine ⟨by rw [htarget, h.connector_eq], by rw [htarget]; exact h.opened, ?_⟩
  rw [htarget, hrecord]
  exact v.calls_accounts h.accounts hpossible

end

end Extensions

end PgVitals

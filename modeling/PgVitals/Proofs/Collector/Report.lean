import PgVitals.Proofs.Collector.Known
import PgVitals.Proofs.Collector.Tasks
import PgVitals.Proofs.Text.ByteOrder
import PgVitals.Server.Script

/-!
# What the collector of extensions reports

An update lists the databases, chooses some of them, makes its tour of these and reports what is
known then.  As long as no call tells of the end of a context, it fails only if the databases cannot
be listed, and it reports for each extension the last database of the tour that has it.
-/

namespace PgVitals.Extensions

variable {σ τ : Type}

/-! ## Listing and choosing -/

/-- A row with a first column. -/
def hasColumn (row : Row) : Bool := !row.cells.isEmpty

/-- The names that rows list, save NULLs and excluded ones. -/
def eligible (settings : Settings) (rows : List Row) : List String :=
  (rows.filterMap fun row => row.cells.head?.join).filter fun name => !settings.isExcluded name

/-- The databases chosen among the eligible ones. -/
def chosen (settings : Settings) (draws : Draws) (eligible : List String) : List String :=
  if eligible.isEmpty then []
  else (Selection.select eligible settings.alwaysScanned settings.scanLimit draws).1

theorem readDatabases_of_legible (settings : Settings) {rows : List Row}
    (h : rows.all hasColumn = true) :
    readDatabases settings rows = .ok (eligible settings rows) := by
  induction rows with
  | nil => rfl
  | cons row rest ih =>
    obtain ⟨hrow, hrest⟩ := Bool.and_eq_true_iff.1 h
    have ih := ih hrest
    rw [readDatabases]
    rcases row with ⟨_ | ⟨_ | name, cells⟩⟩
    · simp [hasColumn] at hrow
    · exact ih
    · change (if settings.isExcluded name then readDatabases settings rest
        else (readDatabases settings rest).map (name :: ·)) = _
      rw [ih]
      by_cases hexcluded : settings.isExcluded name <;> simp [eligible, hexcluded, Except.map]

theorem readDatabases_of_illegible (settings : Settings) {rows : List Row}
    (h : rows.all hasColumn = false) :
    ∃ detail, readDatabases settings rows = .error (.scanFailed detail) := by
  induction rows with
  | nil => simp at h
  | cons row rest ih =>
    rw [List.all_cons, Bool.and_eq_false_iff] at h
    rw [readDatabases]
    rcases row with ⟨_ | ⟨_ | name, cells⟩⟩
    · exact ⟨_, rfl⟩
    · exact ih (h.resolve_left (by simp [hasColumn]))
    · obtain ⟨detail, hrest⟩ := ih (h.resolve_left (by simp [hasColumn]))
      refine ⟨detail, ?_⟩
      change (if settings.isExcluded name then readDatabases settings rest
        else (readDatabases settings rest).map (name :: ·)) = _
      rw [hrest]
      split <;> rfl

/-! ## One update -/

theorem update_lockstep {σ' τ' : Type} {R : Site σ τ → Site σ' τ' → Prop} {ctx : ContextId}
    (hquery : ∀ sql, Step.Lockstep R Eq (Target.query ctx sql) (Target.query ctx sql))
    (hscan : ∀ databases known,
      Step.Lockstep R Eq (scanAll ctx databases known) (scanAll ctx databases known))
    (settings : Settings) : Task.Lockstep R Eq (update settings ctx) (update settings ctx) := by
  refine (Task.lockstep_onSite (hquery _)).bind ?_
  rintro rows _ rfl
  refine (Task.lockstep_ofExcept _).bind ?_
  rintro eligible _ rfl
  refine (Task.lockstep_emit _).bind fun _ _ _ => ?_
  split
  · exact Task.lockstep_emit _
  · refine (Task.lockstep_draw _).bind ?_
    rintro targets _ rfl
    refine (Task.lockstep_emit _).bind fun _ _ _ => ?_
    refine (Task.lockstep_onSite (hscan targets .empty)).bind ?_
    rintro known _ rfl
    exact Task.lockstep_emitAll _

section

variable {settings : Settings} {ctx : ContextId} {b : Bench σ τ} {after : Site σ τ}

theorem update_of_not_done {ending : Outcome (List Row)} (hending : ending.isDone = false)
    (h : Target.query ctx databaseStatement b.toSite = (ending, after)) :
    update settings ctx b = (ending.map fun _ => (), [], { b with toSite := after }) := by
  cases ending with
  | done rows => simp [Outcome.isDone] at hending
  | failed fault => exact Task.bind_of_failed (Task.onSite_of h)
  | crashed note => exact Task.bind_of_crashed (Task.onSite_of h)

theorem update_of_unread {rows : List Row} {fault : Fault}
    (h : Target.query ctx databaseStatement b.toSite = (.done rows, after))
    (hread : readDatabases settings rows = .error fault) :
    update settings ctx b = (.failed fault, [], { b with toSite := after }) := by
  have hfinish :=
    Task.finish_eq (.ofExcept (readDatabases settings rows)) { b with toSite := after }
  rw [hread] at hfinish
  refine (Task.bind_of_done (Task.onSite_of h)).trans ?_
  rw [hread, Task.bind_of_failed hfinish]
  rfl

/-- The samples of what is known, if the tour came to its end. -/
def emitted : Outcome Known → List Sample
  | .done known => samples known
  | _ => []

/-- Once the databases are listed, the two numbers are emitted and the tour is made. -/
theorem update_of_read {rows : List Row} {names : List String}
    (h : Target.query ctx databaseStatement b.toSite = (.done rows, after))
    (hread : readDatabases settings rows = .ok names) :
    let ran := scanAll ctx (chosen settings b.draws names) .empty after
    (update settings ctx b).1 = ran.1.map (fun _ => ()) ∧
      (update settings ctx b).2.1 =
        databasesDiscovered.gauge names.length.toFloat [] ::
          databasesScanned.gauge (chosen settings b.draws names).length.toFloat [] ::
            emitted ran.1 ∧
      (update settings ctx b).2.2.toSite = ran.2 := by
  have hfinish :=
    Task.finish_eq (.ofExcept (readDatabases settings rows)) { b with toSite := after }
  rw [hread] at hfinish
  intro ran
  rw [update, Task.query, Task.bind_of_done (Task.onSite_of h), hread, Task.bind_of_done hfinish,
    Task.bind_of_done (Task.emit_eq _ _)]
  -- Without names the update ends before it draws, with what a tour of nothing would leave.
  rcases hempty : names.isEmpty with _ | _
  · have hchosen : chosen settings b.draws names =
        (Selection.select names settings.alwaysScanned settings.scanLimit b.draws).1 := by
      simp only [chosen, hempty, Bool.false_eq_true, if_false]
    simp only [Bool.false_eq_true, if_false]
    rw [Task.bind_of_done (Task.draw_eq _ _), Task.bind_of_done (Task.emit_eq _ _), ← hchosen]
    rcases hran : ran with ⟨known | fault | note, final⟩
    · rw [Task.bind_of_done (Task.onSite_of hran)]
      exact ⟨rfl, rfl, rfl⟩
    · rw [Task.bind_of_failed (Task.onSite_of hran)]
      exact ⟨rfl, rfl, rfl⟩
    · rw [Task.bind_of_crashed (Task.onSite_of hran)]
      exact ⟨rfl, rfl, rfl⟩
  · have hchosen : chosen settings b.draws names = [] := by
      simp only [chosen, hempty, if_true]
    have hran : ran = (.done .empty, after) := by
      rw [show ran = scanAll ctx (chosen settings b.draws names) .empty after from rfl, hchosen]
      rfl
    simp only [if_true]
    rw [hran, hchosen]
    exact ⟨rfl, rfl, rfl⟩

/-- The two numbers that an update emits before its tour. -/
def numbers (settings : Settings) (draws : Draws) (names : List String) : List Sample :=
  [databasesDiscovered.gauge names.length.toFloat [],
    databasesScanned.gauge (chosen settings draws names).length.toFloat []]

/-- An update without a value has emitted the two numbers if the databases were listed and some are
eligible, and else nothing. -/
theorem update_partial (h : (update settings ctx b).1.isDone = false) :
    (update settings ctx b).2.1 = [] ∨ ∃ rows names after,
      Target.query ctx databaseStatement b.toSite = (.done rows, after) ∧
      readDatabases settings rows = .ok names ∧ names ≠ [] ∧
      (update settings ctx b).2.1 = numbers settings b.draws names := by
  rcases hlisting : Target.query ctx databaseStatement b.toSite with ⟨rows | fault | note, after⟩
  · cases hread : readDatabases settings rows with
    | error fault =>
      rw [update_of_unread hlisting hread]
      exact .inl rfl
    | ok names =>
      obtain ⟨houtcome, hsamples, -⟩ := update_of_read hlisting hread
      rw [houtcome, Outcome.isDone_map] at h
      refine .inr ⟨rows, names, after, rfl, hread, ?_, ?_⟩
      · rintro rfl
        cases h
      · rw [hsamples]
        cases hran : (scanAll ctx (chosen settings b.draws names) .empty after).1 with
        | done known =>
          rw [hran] at h
          cases h
        | failed fault => rfl
        | crashed note => rfl
  · rw [update_of_not_done rfl hlisting]
    exact .inl rfl
  · rw [update_of_not_done rfl hlisting]
    exact .inl rfl

/-- So it has reported no extension. -/
theorem ne_info_of_not_done (h : (update settings ctx b).1.isDone = false) :
    ∀ s ∈ (update settings ctx b).2.1, s.name ≠ info.fullName := by
  have hdiscovered : databasesDiscovered.fullName ≠ info.fullName := by decide +kernel
  have hscanned : databasesScanned.fullName ≠ info.fullName := by decide +kernel
  obtain hnone | ⟨rows, names, after, -, -, -, hnumbers⟩ := update_partial h
  · simp [hnone]
  · rw [hnumbers]
    exact List.forall_mem_cons.2 ⟨hdiscovered, List.forall_mem_singleton.2 hscanned⟩

end

/-! ## The report -/

/-- What an update emits and calls once the databases are listed: both numbers, and for each name in
the order of their bytes the last database of the tour that lists it. -/
structure IsReport (t : Target σ τ) (eligible chosen : List String) (tour : List Visit)
    (calls : List Event) (emitted : List Sample) : Prop where
  visited : tour.map Visit.database = chosen
  possible : ∀ v ∈ tour, v.reception.IsPossible t.statementTimeout
  calls_eq : calls = tourCalls t 0 tour
  attempts : calls.filterMap Event.attempt? =
    chosen.map fun database => (t.descriptor.retarget database).text
  listed : ∃ listed : List (String × String × String),
    emitted = databasesDiscovered.gauge eligible.length.toFloat [] ::
        databasesScanned.gauge chosen.length.toFloat [] ::
          listed.map (fun (name, database, version) => info.gauge 1 [database, name, version]) ∧
      listed.Pairwise (fun a b => Text.Utf8.bytesOf a.1.toList < Text.Utf8.bytesOf b.1.toList) ∧
      ∀ name database version,
        (name, database, version) ∈ listed ↔ LastListed tour name database version

theorem attempts_calls (t : Target σ τ) (n : Nat) (v : Visit) :
    (v.calls t n).filterMap Event.attempt? = [(t.descriptor.retarget v.database).text] := by
  obtain ⟨database, ending | ⟨ending, closing⟩ | ⟨_ | rows, answer, closing⟩⟩ := v <;> rfl

theorem attempts_tourCalls (t : Target σ τ) (n : Nat) (tour : List Visit) :
    (tourCalls t n tour).filterMap Event.attempt? =
      (tour.map Visit.database).map fun database => (t.descriptor.retarget database).text := by
  induction tour generalizing n with
  | nil => rfl
  | cons v rest ih =>
    rw [tourCalls, List.filterMap_append, attempts_calls, ih]
    rfl

theorem tourCalls_congr {σ' τ' : Type} {t : Target σ τ} {t' : Target σ' τ'}
    (hdescriptor : t.descriptor = t'.descriptor)
    (htimeout : t.statementTimeout = t'.statementTimeout) (n : Nat) (tour : List Visit) :
    tourCalls t n tour = tourCalls t' n tour := by
  induction tour generalizing n with
  | nil => rfl
  | cons v rest ih =>
    have hcalls : v.calls t n = v.calls t' n := by
      rw [Visit.calls, Visit.calls, hdescriptor, htimeout]
    rw [tourCalls, tourCalls, ih, hcalls]

/-- What a tour makes known is listed in the order of the bytes of the names. -/
theorem isReport_of_tour {c : Connector σ τ} {t : Target σ τ}
    {site : Site (Audited σ) (Traced τ)} (htarget : site.target.Audits c t)
    (hfresh : openings site.record = 0) (names : List String) {databases : List String}
    {ran : Outcome Known × Site (Audited σ) (Traced τ)} {tour : List Visit}
    (h : IsTour databases .empty site ran tour)
    (hlive : cancels (tourCalls site.target (openings site.record) tour) = false)
    (hcalm : ran.1.isCrashed = false) :
    ran.1 = .done (merge tour .empty) ∧
      IsReport t names databases tour (tourCalls site.target (openings site.record) tour)
        (databasesDiscovered.gauge names.length.toFloat [] ::
          databasesScanned.gauge databases.length.toFloat [] :: emitted ran.1) := by
  obtain ⟨hvisited, hended⟩ := h.complete hlive hcalm
  refine ⟨hended, hvisited, ?_, ?_, ?_, (merge tour .empty).entries, ?_, ?_, ?_⟩
  · rw [← htarget.statementTimeout_eq]
    exact h.possible
  · rw [hfresh, tourCalls_congr htarget.descriptor_eq htarget.statementTimeout_eq]
  · rw [attempts_tourCalls, hvisited, htarget.descriptor_eq]
  · rw [hended]
    rfl
  · exact (merge tour .empty).ascending.imp Text.Utf8.bytesOf_toList_lt
  · intro name database version
    have hempty : Dictionary.get? (.empty : Known) name = none := rfl
    rw [Dictionary.mem_entries_iff, get?_merge, hempty]
    simp

/-- The call that lists the databases is the first in the record. -/
theorem listing_record {c : Connector σ τ} {site asked : Site (Audited σ) (Traced τ)}
    (hconnector : site.target.connector = c.audited) (hfresh : site.record = []) {ctx : ContextId}
    {listing : Outcome (List Row)}
    (h : Target.query ctx databaseStatement site = (listing, asked)) :
    asked.target = site.target ∧ crashes asked.record = listing.isCrashed ∧
      (listing.isDone = true →
        ∃ origin, asked.record = [.query origin databaseStatement listing]) := by
  obtain ⟨htarget, ⟨hrecord, detail, hfailed⟩ | ⟨origin, hrecord⟩⟩ :=
    Target.query_spec hconnector ctx databaseStatement
  · rw [h] at htarget hrecord hfailed
    obtain rfl : listing = .failed (.connectionFailed detail) := hfailed
    refine ⟨htarget, ?_, fun hdone => ?_⟩
    · rw [hrecord, hfresh]
      rfl
    · simp [Outcome.isDone] at hdone
  · rw [h, hfresh] at hrecord
    rw [h] at htarget
    refine ⟨htarget, ?_, fun _ => ⟨origin, hrecord⟩⟩
    rw [hrecord]
    simp [crashes, Event.isCrash]

/-- An update on a site under audit, once the databases are listed in rows that can be read, crashes
only if a call does and reports the databases chosen otherwise. -/
theorem update_of_listed {settings : Settings} {ctx : ContextId} {c : Connector σ τ}
    {t : Target σ τ} {site asked : Site (Audited σ) (Traced τ)} {draws : Draws} {rows : List Row}
    (htarget : site.target.Audits c t) (hfresh : site.record = [])
    (hasked : Target.query ctx databaseStatement site = (.done rows, asked))
    (hlegible : rows.all hasColumn = true)
    (hlive : cancels (update settings ctx ⟨site, draws⟩).2.2.record = false) :
    let ran := update settings ctx ⟨site, draws⟩
    ran.1.isCrashed = crashes ran.2.2.record ∧
      (crashes ran.2.2.record = false →
        ran.1 = .done () ∧ ∃ origin tour calls,
          ran.2.2.record = .query origin databaseStatement (.done rows) :: calls ∧
          IsReport t (eligible settings rows) (chosen settings draws (eligible settings rows)) tour
            calls ran.2.1) := by
  intro ran
  obtain ⟨hkept, hcalm, hfirst⟩ := listing_record htarget.connector_eq hfresh hasked
  obtain ⟨origin, hfirst⟩ := hfirst rfl
  obtain ⟨hended, hemitted, hsite⟩ := update_of_read (b := ⟨site, draws⟩) hasked
    (readDatabases_of_legible settings hlegible)
  have haudits : asked.target.Audits c t := by
    rw [hkept]
    exact htarget
  have hopenings : openings asked.record = 0 := by
    rw [hfirst]
    rfl
  -- From here on only the tour decides: the listing went well and its record is one call.
  obtain ⟨tour, htour⟩ := scanAll_spec ctx (chosen settings draws (eligible settings rows))
    .empty asked haudits.connector_eq
  have hrecord : ran.2.2.record =
      asked.record ++ tourCalls asked.target (openings asked.record) tour :=
    (congrArg Site.record hsite).trans htour.record_eq
  have hcrashes : crashes ran.2.2.record =
      crashes (tourCalls asked.target (openings asked.record) tour) := by
    rw [hrecord, crashes_append, hcalm, Outcome.isCrashed_done, Bool.false_or]
  refine ⟨?_, fun hquiet => ?_⟩
  · rw [show ran.1 = _ from hended, Outcome.isCrashed_map, htour.isCrashed_eq, hcrashes]
  · rw [hcrashes, ← htour.isCrashed_eq] at hquiet
    have hlive' : cancels (tourCalls asked.target (openings asked.record) tour) = false := by
      have h : cancels ran.2.2.record = false := hlive
      rw [hrecord, cancels_append, Bool.or_eq_false_iff] at h
      exact h.2
    obtain ⟨hran, hreport⟩ :=
      isReport_of_tour haudits hopenings (eligible settings rows) htour hlive' hquiet
    refine ⟨?_, origin, tour, tourCalls asked.target (openings asked.record) tour, ?_, ?_⟩
    · rw [show ran.1 = _ from hended, hran]
      rfl
    · rw [hrecord, hfirst]
      rfl
    · rw [show ran.2.1 = _ from hemitted]
      exact hreport

/-- **What the collector of extensions reports.**  Unless a call tells of the end of a context, an
update fails exactly when the statement that lists the databases fails or a row of its answer has no
column, and then it emits nothing.  Otherwise it makes one attempt to connect to each of the
databases chosen, in order, and reports for each extension the last of those that could be scanned
and have it, with the version in its last row there.  An update crashes only if a call does.
Words that are all refused in a draw of the shuffle have no run: the update never gets past it. -/
theorem update_report (settings : Settings) (ctx : ContextId) (site : Site σ τ) (draws : Draws)
    (hlive : cancels (update settings ctx ⟨site.audited, draws⟩).2.2.record = false) :
    let ran := update settings ctx ⟨site, draws⟩
    let audited := update settings ctx ⟨site.audited, draws⟩
    let listing := (Target.query ctx databaseStatement site).1
    (audited.1 = ran.1 ∧ audited.2.1 = ran.2.1 ∧
      audited.2.2.toSite.Audits site.target.connector ran.2.2.toSite) ∧
    (ran.1.isCrashed = crashes audited.2.2.record) ∧
    ((∃ fault, ran.1 = .failed fault) ↔ (∃ fault, listing = .failed fault) ∨
      ∃ rows, listing = .done rows ∧ rows.all hasColumn = false) ∧
    ((∃ fault, ran.1 = .failed fault) → ran.2.1 = []) ∧
    ∀ rows, listing = .done rows → rows.all hasColumn = true →
      crashes audited.2.2.record = false →
        ran.1 = .done () ∧ ∃ origin tour calls,
          audited.2.2.record = .query origin databaseStatement (.done rows) :: calls ∧
          IsReport site.target (eligible settings rows)
            (chosen settings draws (eligible settings rows)) tour calls ran.2.1 := by
  intro ran audited listing
  have haudits : site.audited.Audits site.target.connector site := site.audits_audited
  -- What is said of the run is shown of the run under audit, which ends alike.
  obtain ⟨hended, hsamples, hafter, -⟩ := update_lockstep (R := Site.Audits site.target.connector)
    (fun sql => Target.query_lockstep ctx sql)
    (fun databases known => scanAll_lockstep ctx databases known) settings
    ⟨site.audited, draws⟩ ⟨site, draws⟩ haudits rfl
  have hended : audited.1 = ran.1 := Outcome.related_eq_iff.1 hended
  refine ⟨⟨hended, hsamples, hafter⟩, ?_⟩
  rcases hasked : Target.query ctx databaseStatement site.audited with ⟨listing', asked⟩
  have hlisting : listing = listing' := by
    have h := (Target.query_lockstep ctx databaseStatement site.audited site haudits).1
    rw [hasked] at h
    exact (Outcome.related_eq_iff.1 h).symm
  obtain ⟨-, hcrashes, -⟩ := listing_record haudits.target.connector_eq rfl hasked
  have hsamples : audited.2.1 = ran.2.1 := hsamples
  rw [← hended, ← hsamples, hlisting]
  cases hdone : listing'.isDone with
  | false =>
    have hupdate : audited = (listing'.map fun _ => (), [], ⟨asked, draws⟩) :=
      update_of_not_done hdone hasked
    rw [hupdate]
    refine ⟨?_, ?_, fun _ => rfl, fun rows hrows => ?_⟩
    · rw [Outcome.isCrashed_map]
      exact hcrashes.symm
    · cases listing' with
      | done rows => simp [Outcome.isDone] at hdone
      | failed fault => simp [Outcome.map]
      | crashed note => simp [Outcome.map]
    · rw [hrows] at hdone
      simp [Outcome.isDone] at hdone
  | true =>
    obtain ⟨rows, rfl⟩ := Outcome.exists_of_isDone hdone
    cases hlegible : rows.all hasColumn with
    | false =>
      obtain ⟨detail, hread⟩ := readDatabases_of_illegible settings hlegible
      have hupdate : audited = (.failed (.scanFailed detail), [], ⟨asked, draws⟩) :=
        update_of_unread hasked hread
      rw [hupdate]
      refine ⟨hcrashes.symm, ?_, fun _ => rfl, fun rows' hrows' hlegible' => ?_⟩
      · exact ⟨fun _ => Or.inr ⟨rows, rfl, hlegible⟩, fun _ => ⟨_, rfl⟩⟩
      · cases hrows'
        rw [hlegible] at hlegible'
        cases hlegible'
    | true =>
      obtain ⟨hcrashed, hreport⟩ := update_of_listed haudits.target rfl hasked hlegible hlive
      -- Behind a legible listing an update is done or crashes: a failed visit is passed over.
      have hnot : ∀ fault, audited.1 ≠ .failed fault := by
        intro fault hfault
        have hcalm : crashes audited.2.2.record = false := by
          rw [← show audited.1.isCrashed = _ from hcrashed, hfault]
          rfl
        have h : audited.1 = .done () := (hreport hcalm).1
        rw [hfault] at h
        cases h
      refine ⟨hcrashed, ⟨?_, ?_⟩, ?_, ?_⟩
      · rintro ⟨fault, hfault⟩
        exact absurd hfault (hnot fault)
      · rintro (⟨fault, hfault⟩ | ⟨rows', hrows', hillegible⟩)
        · cases hfault
        · cases hrows'
          rw [hlegible] at hillegible
          cases hillegible
      · rintro ⟨fault, hfault⟩
        exact absurd hfault (hnot fault)
      · rintro rows' hrows' - hcalm
        cases hrows'
        exact hreport hcalm

/-- A server with three databases, of which one is excluded and one accepts no connections. -/
theorem update_report_three_databases :
    let rows : List Row := [⟨[some "app"]⟩, ⟨[none]⟩, ⟨[some "gone"]⟩, ⟨[some "hidden"]⟩]
    let script := ((Script.answer {} "postgres" databaseStatement (.rows rows)).answer "app"
      extensionStatement (.rows [⟨[some "plpgsql", some "1.0"]⟩, ⟨[some "hstore", none]⟩])).refuse
        "gone"
    let site : Site Script String :=
      ⟨⟨Script.connector, .keyValue ⟨[⟨"host", "h"⟩]⟩, 0, some (.owned "postgres"), .unknown⟩,
        Scene.around script 0⟩
    let settings : Settings := { excluded := ["hidden"], scanLimit := 0 }
    let draws : Draws := .ofWords #[]
    cancels (update settings 0 ⟨site.audited, draws⟩).2.2.record = false ∧
      chosen settings draws (eligible settings rows) = ["app", "gone"] ∧
      (update settings 0 ⟨site, draws⟩).1 = .done () ∧
      ∃ origin tour calls,
        (update settings 0 ⟨site.audited, draws⟩).2.2.record =
          .query origin databaseStatement (.done rows) :: calls ∧
        IsReport site.target ["app", "gone"] ["app", "gone"] tour calls
          (update settings 0 ⟨site, draws⟩).2.1 := by
  intro rows script site settings draws
  have hlive : cancels (update settings 0 ⟨site.audited, draws⟩).2.2.record = false := by
    decide +kernel
  obtain ⟨-, -, -, -, hreport⟩ := update_report settings 0 site draws hlive
  obtain ⟨hended, hreported⟩ :=
    hreport rows (by decide +kernel) (by decide +kernel) (by decide +kernel)
  exact ⟨hlive, by decide +kernel, hended, hreported⟩

end PgVitals.Extensions

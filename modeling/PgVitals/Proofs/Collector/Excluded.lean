import PgVitals.Proofs.Collector.Report
import PgVitals.Proofs.Collector.Selection
import PgVitals.Proofs.Descriptor.Printed

/-!
# Excluded databases are never visited

The databases that an update of the extensions visits are chosen among those that the server listed
and the settings do not exclude.  That a database is always to be scanned does not bring it back:
the choice is made after the excluded ones are gone.  The update may end anywhere on its way, so
what it visits is a beginning of what was chosen.
-/

namespace PgVitals.Extensions

variable {σ τ : Type} {settings : Settings} {draws : Draws} {rows : List Row}

/-! ## The names chosen -/

/-- The names that rows list, save NULLs. -/
def listed (rows : List Row) : List String := rows.filterMap fun row => row.cells.head?.join

theorem mem_listed_iff {name : String} :
    name ∈ listed rows ↔ ∃ row ∈ rows, row.text 0 = .ok (some name) := by
  have hrow : ∀ row : Row, row.cells.head?.join = some name ↔ row.text 0 = .ok (some name) := by
    rintro ⟨_ | ⟨_ | cell, cells⟩⟩ <;> simp [Row.text]
  simp only [listed, List.mem_filterMap, hrow]

theorem mem_eligible_iff {name : String} :
    name ∈ eligible settings rows ↔
      (∃ row ∈ rows, row.text 0 = .ok (some name)) ∧ name ∉ settings.excluded := by
  rw [eligible, List.mem_filter, ← mem_listed_iff, listed]
  simp [Settings.isExcluded]

theorem mem_eligible_of_chosen {names : List String} {name : String}
    (h : name ∈ chosen settings draws names) : name ∈ names := by
  unfold chosen at h
  split at h
  · cases h
  · exact Selection.mem_eligible_of_select h

theorem nodup_chosen (h : (listed rows).Nodup) :
    (chosen settings draws (eligible settings rows)).Nodup := by
  have heligible : (eligible settings rows).Nodup := h.filter _
  unfold chosen
  split
  · exact List.nodup_nil
  · exact Selection.nodup_select (Or.inr heligible)

/-! ## The names visited -/

/-- The names that an update may visit when a server answers with these rows. -/
structure MayVisit (settings : Settings) (rows : List Row) (names : List String) : Prop where
  listed : ∀ name ∈ names, ∃ row ∈ rows, row.text 0 = .ok (some name)
  not_excluded : ∀ name ∈ names, name ∉ settings.excluded
  nodup : (Extensions.listed rows).Nodup → names.Nodup

theorem mayVisit_of_prefix {names : List String}
    (h : names <+: chosen settings draws (eligible settings rows)) :
    MayVisit settings rows names where
  listed := fun _ hname => (mem_eligible_iff.1 (mem_eligible_of_chosen (h.subset hname))).1
  not_excluded := fun _ hname => (mem_eligible_iff.1 (mem_eligible_of_chosen (h.subset hname))).2
  nodup := fun hlisted => (nodup_chosen hlisted).sublist h.sublist

/-- The calls of an update attempt to connect to these databases, which are the first ones of those
chosen among the databases that the first answer lists. -/
def Attempts (settings : Settings) (draws : Draws) (descriptor : Descriptor) (record : List Event)
    (names : List String) : Prop :=
  record.filterMap Event.attempt? =
      names.map (fun database => (descriptor.retarget database).text) ∧
    (names = [] ∨ ∃ origin rows calls,
      record = .query origin databaseStatement (.done rows) :: calls ∧
        names <+: chosen settings draws (eligible settings rows))

/-- An update attempts to connect to nothing until the databases are listed in rows that can be
read, and then to the first ones of those chosen. -/
theorem update_attempts (settings : Settings) (draws : Draws) (ctx : ContextId) {c : Connector σ τ}
    {site : Site (Audited σ) (Traced τ)} (hconnector : site.target.connector = c.audited)
    (hfresh : site.record = []) :
    ∃ names, Attempts settings draws site.target.descriptor
      (update settings ctx ⟨site, draws⟩).2.2.record names := by
  rcases hasked : Target.query ctx databaseStatement site with ⟨listing, asked⟩
  obtain ⟨htarget, -, hfirst⟩ := listing_record hconnector hfresh hasked
  have hquiet : asked.record.filterMap Event.attempt? = [] := by
    have hspec := Target.query_spec hconnector ctx databaseStatement
    rw [hasked, hfresh] at hspec
    obtain ⟨-, ⟨hrecord, -⟩ | ⟨origin, hrecord⟩⟩ := hspec
    · rw [hrecord]
      rfl
    · rw [hrecord]
      rfl
  -- Asking for the databases opens no session, so an update that stops there attempts nothing.
  have hstop : Attempts settings draws site.target.descriptor asked.record [] :=
    ⟨hquiet, Or.inl rfl⟩
  cases hdone : listing.isDone with
  | false =>
    rw [update_of_not_done (b := ⟨site, draws⟩) hdone hasked]
    exact ⟨[], hstop⟩
  | true =>
    obtain ⟨rows, rfl⟩ := Outcome.exists_of_isDone hdone
    cases hlegible : rows.all hasColumn with
    | false =>
      obtain ⟨detail, hread⟩ := readDatabases_of_illegible settings hlegible
      rw [update_of_unread (b := ⟨site, draws⟩) hasked hread]
      exact ⟨[], hstop⟩
    | true =>
      -- The attempts are the visits of the tour, and the tour follows the targets as far as it
      -- gets.
      obtain ⟨origin, hfirst⟩ := hfirst rfl
      obtain ⟨-, -, hsite⟩ := update_of_read (b := ⟨site, draws⟩) hasked
        (readDatabases_of_legible settings hlegible)
      have hconnector' : asked.target.connector = c.audited := by
        rw [htarget, hconnector]
      obtain ⟨tour, htour⟩ := scanAll_spec ctx (chosen settings draws (eligible settings rows))
        .empty asked hconnector'
      have hrecord : (update settings ctx ⟨site, draws⟩).2.2.record =
          asked.record ++ tourCalls asked.target (openings asked.record) tour :=
        (congrArg Site.record hsite).trans htour.record_eq
      refine ⟨tour.map Visit.database, ?_, Or.inr ⟨origin, rows, ?_⟩⟩
      · rw [hrecord, List.filterMap_append, hquiet, attempts_tourCalls, htarget]
        rfl
      · rw [hrecord, hfirst]
        exact ⟨_, rfl, htour.visited⟩

/-- **Excluded databases are never visited.**  In every run of an update, the databases that it
attempts to connect to are named by the first answer of the server and not excluded, whichever are
always to be scanned and however the update ends; and no database is visited twice, provided that
the names of that answer are distinct.  A name stands for the descriptor pointed at it, whose text
the connector gets: different names have different texts.  Words that are all refused in a draw
have no run, as the shuffle does not end; here they are only more runs of which the same holds. -/
theorem update_visits (settings : Settings) (ctx : ContextId) (site : Site σ τ) (draws : Draws) :
    let ran := update settings ctx ⟨site, draws⟩
    let audited := update settings ctx ⟨site.audited, draws⟩
    let text := fun database => (site.target.descriptor.retarget database).text
    (audited.1 = ran.1 ∧ audited.2.1 = ran.2.1 ∧
      audited.2.2.toSite.Audits site.target.connector ran.2.2.toSite) ∧
    Function.Injective text ∧
    ∃ names : List String, audited.2.2.record.filterMap Event.attempt? = names.map text ∧
      (names = [] ∨ ∃ origin rows calls,
        audited.2.2.record = .query origin databaseStatement (.done rows) :: calls ∧
          MayVisit settings rows names) := by
  intro ran audited text
  have haudits : site.audited.Audits site.target.connector site := site.audits_audited
  obtain ⟨hended, hsamples, hafter, -⟩ := update_lockstep (R := Site.Audits site.target.connector)
    (fun sql => Target.query_lockstep ctx sql)
    (fun databases known => scanAll_lockstep ctx databases known) settings
    ⟨site.audited, draws⟩ ⟨site, draws⟩ haudits rfl
  have hended : audited.1 = ran.1 := Outcome.related_eq_iff.1 hended
  have hinjective : Function.Injective text :=
    site.target.descriptor.text_retarget_injective
  refine ⟨⟨hended, hsamples, hafter⟩, hinjective, ?_⟩
  obtain ⟨names, hattempts, hnames⟩ :=
    update_attempts settings draws ctx haudits.target.connector_eq rfl
  rw [haudits.target.descriptor_eq] at hattempts
  refine ⟨names, hattempts, ?_⟩
  obtain hnone | ⟨origin, rows, calls, hrecord, hprefix⟩ := hnames
  · exact Or.inl hnone
  · exact Or.inr ⟨origin, rows, calls, hrecord, mayVisit_of_prefix hprefix⟩

/-- A server with three databases, one of them excluded although it is always to be scanned, and a
limit of two. -/
theorem update_visits_excluded_first :
    let rows : List Row := [⟨[some "hidden"]⟩, ⟨[some "app"]⟩, ⟨[none]⟩, ⟨[some "store"]⟩]
    let script := Script.answer {} "postgres" databaseStatement (.rows rows)
    let site : Site Script String :=
      ⟨⟨Script.connector, .keyValue ⟨[⟨"host", "h"⟩]⟩, 0, some (.owned "postgres"), .unknown⟩,
        Scene.around script 0⟩
    let settings : Settings :=
      { excluded := ["hidden"], scanLimit := 2, alwaysScanned := ["hidden", "store", "store"] }
    let audited := update settings 0 ⟨site.audited, .ofWords #[]⟩
    (listed rows).Nodup ∧
      audited.2.2.record.filterMap Event.attempt? = ["host=h dbname=store", "host=h dbname=app"] ∧
      ∃ names : List String, names.Nodup ∧ "hidden" ∉ names ∧
        audited.2.2.record.filterMap Event.attempt? =
          names.map fun database => (site.target.descriptor.retarget database).text := by
  intro rows script site settings audited
  have hlisted : (listed rows).Nodup := by
    decide +kernel
  have hfirst : audited.2.2.record.head? =
      some (.query .outside databaseStatement (.done rows)) := by
    decide +kernel
  have hattempts : audited.2.2.record.filterMap Event.attempt? =
      ["host=h dbname=store", "host=h dbname=app"] := by
    decide +kernel
  obtain ⟨-, -, names, hnames, hvisits⟩ := update_visits settings 0 site (.ofWords #[])
  obtain hnone | ⟨origin, rows', calls, hrecord, hmay⟩ := hvisits
  · have hempty : audited.2.2.record.filterMap Event.attempt? = [] := by
      rw [hnames, hnone]
      rfl
    rw [hattempts] at hempty
    cases hempty
  · rw [hrecord, List.head?_cons, Option.some.injEq] at hfirst
    obtain ⟨-, -, hrows⟩ := Event.query.inj hfirst
    obtain rfl : rows' = rows := Outcome.done.inj hrows
    have hhidden : "hidden" ∉ names := fun hmem => hmay.not_excluded _ hmem (by simp [settings])
    exact ⟨hlisted, hattempts, names, hmay.nodup hlisted, hhidden, hnames⟩

end PgVitals.Extensions

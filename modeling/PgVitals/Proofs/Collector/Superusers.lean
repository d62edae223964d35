import PgVitals.Collector.Superusers
import PgVitals.Proofs.Collector.Tasks

/-!
# The count of superusers matches the roles reported

The rows of the answer are read in one pass that skips NULLs and expected names before it looks at
the second column, and that fails at the first column missing.  So reading succeeds exactly if every
row has the columns that are looked at in it, and then gives the roles to report in the order of the
rows.  The roles are emitted one by one and their number behind them, so the number is that of the
samples before it.
-/

namespace PgVitals.Superusers

variable {σ τ : Type}

/-! ## Rows -/

/-- The role that a row gives cause to report, with how it is a superuser; none if the name is NULL
or expected. -/
def unexpected? (expected : List String) (row : Row) : Option (String × String) :=
  match row.cells with
  | some name :: more =>
    if expected.contains name then none else some (name, more.head?.join.getD "direct")
  | _ => none

/-- The row has the columns that are looked at: a first one, and a second one if its role is to be
reported. -/
def Legible (expected : List String) (row : Row) : Prop :=
  0 < row.size ∧ ((unexpected? expected row).isSome = true → 1 < row.size)

instance (expected : List String) (row : Row) : Decidable (Legible expected row) :=
  inferInstanceAs (Decidable (_ ∧ _))

/-- **Reading the roles is exact:** it succeeds on legible rows only, with what each gives cause to
report. -/
theorem readRoles_eq_ok_iff {expected : List String} {rows : List Row}
    {roles : List (String × String)} :
    readRoles expected rows = .ok roles ↔
      (∀ row ∈ rows, Legible expected row) ∧ rows.filterMap (unexpected? expected) = roles := by
  -- Row by row, since the first row that is not legible stops the reading.
  induction rows generalizing roles with
  | nil => simp [readRoles]
  | cons row rest ih =>
    rw [List.forall_mem_cons, and_assoc]
    rcases row with ⟨_ | ⟨_ | name, more⟩⟩
    · have hread : readRoles expected (⟨[]⟩ :: rest) =
          .error (.scanFailed "column 0 out of range (0 columns)") := rfl
      simp [hread, Legible, Row.size]
    · have hskip : readRoles expected (⟨none :: more⟩ :: rest) = readRoles expected rest := rfl
      have hnone : unexpected? expected ⟨none :: more⟩ = none := rfl
      rw [hskip, ih, List.filterMap_cons_none hnone]
      simp [Legible, Row.size, hnone]
    · have hname : Row.text ⟨some name :: more⟩ 0 = .ok (some name) := rfl
      simp only [readRoles, hname]
      by_cases hexpected : expected.contains name = true
      · -- An expected name is skipped before the second column is looked at.
        have hnone : unexpected? expected ⟨some name :: more⟩ = none := by
          simp only [unexpected?, if_pos hexpected]
        rw [if_pos hexpected, ih, List.filterMap_cons_none hnone]
        simp [Legible, Row.size, hnone]
      · have hsome : unexpected? expected ⟨some name :: more⟩ =
            some (name, more.head?.join.getD "direct") := by
          simp only [unexpected?, if_neg hexpected]
        rw [if_neg hexpected, List.filterMap_cons_some hsome]
        cases more with
        | nil => simp [Row.text, Legible, Row.size, hsome]
        | cons access more =>
          have haccess : Row.text ⟨some name :: access :: more⟩ 1 = .ok access := rfl
          have hlegible : Legible expected ⟨some name :: access :: more⟩ := by
            simp [Legible, Row.size]
          simp only [haccess, hlegible, true_and]
          rw [Except.map_eq_ok_iff]
          constructor
          · rintro ⟨found, hfound, rfl⟩
            obtain ⟨hrest, rfl⟩ := ih.1 hfound
            exact ⟨hrest, rfl⟩
          · rintro ⟨hrest, rfl⟩
            exact ⟨_, ih.2 ⟨hrest, rfl⟩, rfl⟩

/-! ## Updates -/

section

variable {settings : Settings} {ctx : ContextId} {b after : Bench σ τ} {site : Site σ τ}

/-- The samples of an update that reports the roles. -/
def report (roles : List (String × String)) : List Sample :=
  roles.map (fun (name, access) => role.gauge 1 [name, access]) ++
    [count.gauge roles.length.toFloat []]

theorem update_of_not_done {ending : Outcome (List Row)} (hending : ending.isDone = false)
    (h : Target.query ctx (statement b.target.version) b.toSite = (ending, site)) :
    update settings ctx b = (ending.map fun _ => (), [], { b with toSite := site }) := by
  have htarget : (Task.target : Task σ τ _) b = (.done b.target, [], b) := rfl
  rw [update, Task.bind_of_done htarget]
  cases ending with
  | done rows => cases hending
  | failed fault =>
    rw [Task.query, Task.bind_of_failed (Task.onSite_of h)]
    rfl
  | crashed note =>
    rw [Task.query, Task.bind_of_crashed (Task.onSite_of h)]
    rfl

theorem update_of_rows {rows : List Row}
    (h : Target.query ctx (statement b.target.version) b.toSite = (.done rows, site)) :
    update settings ctx b =
      match readRoles settings.expectedSuperusers rows with
      | .error fault => (.failed fault, [], { b with toSite := site })
      | .ok roles => (.done (), report roles, { b with toSite := site }) := by
  have htarget : (Task.target : Task σ τ _) b = (.done b.target, [], b) := rfl
  rw [update, Task.bind_of_done htarget, Task.query, Task.bind_of_done (Task.onSite_of h)]
  cases readRoles settings.expectedSuperusers rows <;> rfl

theorem update_eq_done_iff {samples : List Sample} :
    update settings ctx b = (.done (), samples, after) ↔
      ∃ rows site roles,
        Target.query ctx (statement b.target.version) b.toSite = (.done rows, site) ∧
        readRoles settings.expectedSuperusers rows = .ok roles ∧ report roles = samples ∧
        { b with toSite := site } = after := by
  rcases hquery : Target.query ctx (statement b.target.version) b.toSite with
    ⟨rows | fault | note, site⟩
  · rw [update_of_rows hquery]
    constructor
    · intro h
      cases hread : readRoles settings.expectedSuperusers rows with
      | error fault =>
        rw [hread] at h
        cases h
      | ok roles =>
        rw [hread] at h
        cases h
        exact ⟨rows, site, roles, rfl, hread, rfl, rfl⟩
    · rintro ⟨_, _, roles, ⟨⟩, hread, rfl, rfl⟩
      rw [hread]
  · simp [update_of_not_done rfl hquery, Outcome.map]
  · simp [update_of_not_done rfl hquery, Outcome.map]

end

/-- **The count matches the roles reported.**  An update succeeds exactly if the statement for the
version is answered and every row of the answer has a first column, and a second one where the first
is an unexpected name.  It has then emitted one sample for every row with an unexpected name, in the
order of the rows, and behind them one sample with their number. -/
theorem update_reports (settings : Settings) (ctx : ContextId) (b : Bench σ τ) :
    let asked := (Target.query ctx (statement b.target.version) b.toSite).1
    let ran := update settings ctx b
    (ran.1 = .done () ↔
      ∃ rows, asked = .done rows ∧ ∀ row ∈ rows, Legible settings.expectedSuperusers row) ∧
    ∀ rows, asked = .done rows → ran.1 = .done () →
      let roles := rows.filterMap (unexpected? settings.expectedSuperusers)
      ran.2.1 = roles.map (fun (name, access) => role.gauge 1 [name, access]) ++
        [count.gauge roles.length.toFloat []] := by
  intro asked ran
  -- Both directions go through `update_eq_done_iff`, which speaks of the whole result.
  have hsplit : ran.1 = .done () → update settings ctx b = (.done (), ran.2.1, ran.2.2) := by
    intro hdone
    rw [← hdone]
  refine ⟨⟨fun hdone => ?_, ?_⟩, fun rows hrows hdone => ?_⟩
  · obtain ⟨rows, site, roles, hquery, hread, -⟩ := update_eq_done_iff.1 (hsplit hdone)
    exact ⟨rows, congrArg Prod.fst hquery, (readRoles_eq_ok_iff.1 hread).1⟩
  · rintro ⟨rows, hrows, hlegible⟩
    have hread := readRoles_eq_ok_iff.2 ⟨hlegible, rfl⟩
    have hran := update_eq_done_iff.2 ⟨rows, _, _, Prod.ext hrows rfl, hread, rfl, rfl⟩
    exact congrArg Prod.fst hran
  · obtain ⟨rows', site, roles, hquery, hread, hreport, -⟩ :=
      update_eq_done_iff.1 (hsplit hdone)
    obtain rfl : rows' = rows := Outcome.done.inj ((congrArg Prod.fst hquery).symm.trans hrows)
    obtain ⟨-, rfl⟩ := readRoles_eq_ok_iff.1 hread
    exact hreport.symm

/-- Two rows are skipped although they have one column only, and a role that is listed twice is
reported and counted twice. -/
theorem update_reports_listed_twice :
    let rows : List Row :=
      [⟨[none]⟩, ⟨[some "pscale_admin"]⟩, ⟨[some "eve", none]⟩, ⟨[some "eve", some "indirect"]⟩]
    let answer (sql : String) : Outcome (List Row) :=
      if sql = grantedStatement then .done rows else .failed .cancelled
    let connector : Connector Unit String :=
      ⟨fun _ descriptor => pure descriptor, fun _ _ sql => Step.finish (answer sql),
        fun _ => pure ()⟩
    let b : Bench Unit String :=
      ⟨⟨⟨connector, .keyValue ⟨[⟨"host", "h"⟩]⟩, 0, some (.owned "postgres"), ⟨16, 4, 0⟩⟩,
        .around () 0⟩, .ofWords #[]⟩
    (update {} 0 b).1 = .done () ∧
      (update {} 0 b).2.1 =
        [role.gauge 1 ["eve", "direct"], role.gauge 1 ["eve", "indirect"],
          count.gauge (Nat.toFloat 2) []] := by
  intro rows answer connector b
  have hanswer : answer grantedStatement = .done rows := if_pos rfl
  -- The two statements are long texts, which nothing below needs to compare.
  clear_value answer
  have hgranted : statement b.target.version = grantedStatement := rfl
  have hasked : (Target.query 0 (statement b.target.version) b.toSite).1 = .done rows := by
    rw [hgranted, ← hanswer]
    rfl
  have hlegible : ∀ row ∈ rows, Legible ({} : Settings).expectedSuperusers row := by
    decide +kernel
  have hroles : rows.filterMap (unexpected? ({} : Settings).expectedSuperusers) =
      [("eve", "direct"), ("eve", "indirect")] := by decide +kernel
  obtain ⟨hdone, hemitted⟩ := update_reports {} 0 b
  have hran := hdone.2 ⟨rows, hasked, hlegible⟩
  refine ⟨hran, (hemitted rows hasked hran).trans ?_⟩
  simp only [hroles]
  rfl

end PgVitals.Superusers

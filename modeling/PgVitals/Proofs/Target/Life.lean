import PgVitals.Proofs.Server.Plain
import PgVitals.Proofs.Target.Sessions
import PgVitals.Server.Script

/-!
# The life of a target

A target is set up on sessions that it opens and on sessions lent to it, and closed, in any order
and as often as its user likes, and is released in the end.  Meanwhile the world around it may
change in any way.  Whatever happens, no session is closed twice and none that was lent is closed.
The sessions never closed are the ones that a later call to set up abandoned, one for each such
call; a life without such a call closes all that it opened.
-/

namespace PgVitals

variable {σ τ : Type}

/-- What befalls a target. -/
inductive Call (σ τ : Type) where
  | setup (ctx : ContextId)
  | setupShared (ctx : ContextId) (shared : Shared τ)
  | close
  /-- Nothing that the target does: time passes, contexts are made and end, the server is used by
  others. -/
  | meanwhile (change : Scene σ → Scene σ)

namespace Call

def perform : Call σ τ → Site σ τ → Site σ τ
  | setup ctx, site => (Target.setup ctx site).2
  | setupShared ctx shared, site => (Target.setupShared ctx shared site).2
  | close, site => (Target.close site).2
  | meanwhile change, site => { site with scene := change site.scene }

/-- The call on a target under audit. -/
def audited : Call σ τ → Call (Audited σ) (Traced τ)
  | setup ctx => setup ctx
  | setupShared ctx shared => setupShared ctx ⟨⟨shared.session, .outside⟩, shared.lock⟩
  | close => close
  | meanwhile change => meanwhile (Scene.meanwhile change)

/-- Whether the call puts a session in place of one that the target opened. -/
def abandons : Call σ τ → Site σ τ → Bool
  | setup ctx, site =>
    site.target.ownsSession &&
      (site.target.connector.connect ctx site.target.descriptor.text site.scene).1.isDone
  | setupShared _ _, site => site.target.ownsSession
  | close, _ => false
  | meanwhile _, _ => false

end Call

namespace Target

/-- The calls one after the other. -/
def course (calls : List (Call σ τ)) (site : Site σ τ) : Site σ τ :=
  calls.foldl (fun site call => call.perform site) site

/-- The calls one after the other, and the release of the target. -/
def life (calls : List (Call σ τ)) (site : Site σ τ) : Site σ τ := (release (course calls site)).2

/-- How many of the calls abandon a session. -/
def abandonments : List (Call σ τ) → Site σ τ → Nat
  | [], _ => 0
  | call :: rest, site =>
    (if call.abandons site then 1 else 0) + abandonments rest (call.perform site)

end Target

variable {c : Connector σ τ} {lost : List Nat}

namespace InOrder

/-- A target that holds nothing, with nothing in the record. -/
theorem unconfigured (c : Connector σ τ) (descriptor : Descriptor) (timeout : Nat)
    (scene : Scene σ) :
    InOrder c [] (Site.audited ⟨.unconfigured c descriptor timeout, scene⟩) :=
  @InOrder.audited σ τ ⟨.unconfigured c descriptor timeout, scene⟩ rfl

theorem length_held {site : Site (Audited σ) (Traced τ)} (h : InOrder c lost site) :
    site.target.held.length = if site.target.ownsSession then 1 else 0 := by
  rcases howns : site.target.ownsSession with _ | _
  · rw [h.held_eq_nil_iff.2 howns]
    rfl
  · obtain ⟨traced, hhold⟩ := Target.exists_owned howns
    obtain ⟨n, -, hheld⟩ := h.held_of_owned hhold
    rw [hheld]
    rfl

end InOrder

theorem Connector.isDone_audited_connect (c : Connector σ τ) (ctx : ContextId)
    (descriptor : String) (s : Scene (Audited σ)) :
    (c.audited.connect ctx descriptor s).1.isDone = (c.connect ctx descriptor s.plain).1.isDone :=
  (c.connect_lockstep ctx descriptor s s.plain rfl).1.isDone_eq

namespace Call

/-! ## One call -/

/-- A call on a target under audit does what the call on the plain one does. -/
theorem perform_audits {site : Site (Audited σ) (Traced τ)} {site' : Site σ τ}
    (h : site.Audits c site') (call : Call σ τ) :
    (call.audited.perform site).Audits c (call.perform site') := by
  cases call with
  | setup ctx => exact (Target.setup_lockstep ctx site site' h).2
  | setupShared ctx shared =>
    exact (Target.setupShared_lockstep ctx ⟨⟨shared.session, .outside⟩, shared.lock⟩ site site' h).2
  | close => exact (Target.close_lockstep site site' h).2
  | meanwhile change => exact ⟨h.target, congrArg change h.scene⟩

theorem abandons_audited {site : Site (Audited σ) (Traced τ)} {site' : Site σ τ}
    (h : site.Audits c site') (call : Call σ τ) :
    call.audited.abandons site = call.abandons site' := by
  have howns : site.target.ownsSession = site'.target.ownsSession := by
    rw [Target.ownsSession, Target.ownsSession, ← h.target.hold_eq]
    rcases site.target.hold with _ | (traced | shared) <;> rfl
  cases call with
  | setup ctx =>
    have hscene : site.scene.plain = site'.scene := h.scene
    rw [audited, abandons, abandons, howns, h.target.connector_eq, h.target.connector_eq',
      h.target.descriptor_eq, Connector.isDone_audited_connect, hscene]
  | setupShared ctx shared => exact howns
  | close => rfl
  | meanwhile change => rfl

/-- A call abandons at most one session, and only if it puts another one in its place. -/
theorem perform_inOrder {site : Site (Audited σ) (Traced τ)} (h : InOrder c lost site)
    (call : Call σ τ) :
    ∃ lost', InOrder c lost' (call.audited.perform site) ∧
      lost'.length = (if call.audited.abandons site then 1 else 0) + lost.length := by
  cases call with
  | setup ctx =>
    rcases hdone : (c.connect ctx site.target.descriptor.text site.scene.plain).1.isDone with _ | _
    · refine ⟨lost, (Target.setup_inOrder_of_not_done h hdone).1, ?_⟩
      simp only [audited, abandons, h.connector_eq, Connector.isDone_audited_connect, hdone,
        Bool.and_false, Bool.false_eq_true, if_false, Nat.zero_add]
    · -- The new session takes the place of the one held, which nothing will close.
      refine ⟨_, Target.setup_inOrder_of_done h hdone, ?_⟩
      rw [List.length_append, h.length_held]
      simp only [audited, abandons, h.connector_eq, Connector.isDone_audited_connect, hdone,
        Bool.and_true]
  | setupShared ctx shared =>
    refine ⟨_, Target.setupShared_inOrder h ctx ⟨⟨shared.session, .outside⟩, shared.lock⟩, ?_⟩
    rw [List.length_append, h.length_held]
    rfl
  | close => exact ⟨lost, Target.close_keeps site h, (Nat.zero_add _).symm⟩
  | meanwhile change => exact ⟨lost, h.congr rfl rfl rfl, (Nat.zero_add _).symm⟩

end Call

/-! ## All calls -/

namespace Target

theorem course_audits {site : Site (Audited σ) (Traced τ)} {site' : Site σ τ}
    (h : site.Audits c site') (calls : List (Call σ τ)) :
    (course (calls.map Call.audited) site).Audits c (course calls site') := by
  induction calls generalizing site site' with
  | nil => exact h
  | cons call rest ih => exact ih (call.perform_audits h)

theorem abandonments_audited {site : Site (Audited σ) (Traced τ)} {site' : Site σ τ}
    (h : site.Audits c site') (calls : List (Call σ τ)) :
    abandonments (calls.map Call.audited) site = abandonments calls site' := by
  induction calls generalizing site site' with
  | nil => rfl
  | cons call rest ih =>
    rw [List.map_cons, abandonments, abandonments, call.abandons_audited h,
      ih (call.perform_audits h)]

theorem course_inOrder {site : Site (Audited σ) (Traced τ)} (h : InOrder c lost site)
    (calls : List (Call σ τ)) :
    ∃ lost', InOrder c lost' (course (calls.map Call.audited) site) ∧
      lost'.length = abandonments (calls.map Call.audited) site + lost.length := by
  induction calls generalizing site lost with
  | nil => exact ⟨lost, h, (Nat.zero_add _).symm⟩
  | cons call rest ih =>
    obtain ⟨lost₁, h₁, hlength₁⟩ := Call.perform_inOrder h call
    obtain ⟨lost₂, h₂, hlength₂⟩ := ih h₁
    refine ⟨lost₂, h₂, ?_⟩
    rw [hlength₂, hlength₁, List.map_cons, abandonments]
    omega

/-- At the end of a life nothing is held, and as many sessions are lost as were abandoned. -/
theorem life_accounts {site : Site (Audited σ) (Traced τ)} (h : InOrder c [] site)
    (calls : List (Call σ τ)) :
    ∃ lost, Accounts (life (calls.map Call.audited) site).record lost ∧
      lost.length = abandonments (calls.map Call.audited) site := by
  obtain ⟨lost, hcourse, hlength⟩ := course_inOrder h calls
  have hreleased := (release_keeps _ hcourse).accounts
  rw [held_of_hold_eq_none (hold_release _), List.nil_append] at hreleased
  exact ⟨lost, hreleased, hlength⟩

/-- **The sessions of a target's life.**  Every session that the target opened is closed at most
once, and none that was lent to it ever.  All that it opened are closed exactly when no call to set
it up put a session in place of one that it had opened and still held. -/
theorem life_closes_all_iff (c : Connector σ τ) (descriptor : Descriptor) (timeout : Nat)
    (scene : Scene σ) (calls : List (Call σ τ)) :
    let site : Site σ τ := ⟨.unconfigured c descriptor timeout, scene⟩
    let ended := life (calls.map Call.audited) site.audited
    ended.Audits c (life calls site) ∧
      (∀ n, closings (.opened n) ended.record ≤ if n < openings ended.record then 1 else 0) ∧
      closings .outside ended.record = 0 ∧
      ((∀ n, n < openings ended.record → closings (.opened n) ended.record = 1) ↔
        abandonments calls site = 0) := by
  intro site ended
  have haudits : site.audited.Audits c site := site.audits_audited
  obtain ⟨lost, haccounts, hlength⟩ :=
    life_accounts (InOrder.unconfigured c descriptor timeout scene) calls
  rw [abandonments_audited haudits] at hlength
  have hbalance : ∀ n, closings (.opened n) ended.record + lost.count n =
      if n < openings ended.record then 1 else 0 := haccounts.opened
  refine ⟨(release_lockstep _ _ (course_audits haudits calls)).2, fun n => ?_,
    haccounts.outside, ?_⟩
  · rw [← hbalance n]
    exact Nat.le_add_right _ _
  · rw [← hlength, List.length_eq_zero_iff]
    constructor
    · intro hclosed
      refine List.eq_nil_iff_forall_not_mem.2 fun n hn => ?_
      have hcount : 0 < lost.count n := List.count_pos_iff.2 hn
      have hn := hbalance n
      by_cases hlt : n < openings ended.record
      · rw [if_pos hlt, hclosed n hlt] at hn
        omega
      · rw [if_neg hlt] at hn
        omega
    · intro hlost n hlt
      have hn := hbalance n
      rw [hlost, List.count_nil, if_pos hlt] at hn
      exact hn

/-- A target set up twice closes the second of its sessions only. -/
theorem life_setup_twice :
    let script := Script.answer {} "postgres" versionStatement
      (.rows [⟨[some "PostgreSQL 16.4 on x86_64"]⟩])
    let site := Site.audited
      ⟨.unconfigured Script.connector (.keyValue ⟨[⟨"host", "h"⟩]⟩) 0, Scene.around script 0⟩
    let record := (life ([.setup 0, .setup 0].map Call.audited) site).record
    openings record = 2 ∧ closings (.opened 0) record = 0 ∧ closings (.opened 1) record = 1 := by
  decide +kernel

end Target

end PgVitals

import Mathlib.Data.List.Dedup
import Mathlib.Logic.Relation
import PgVitals.Proofs.Cancellation.Changes

/-!
# Cascades

When a context ends its registrations run, in an order that nobody fixes; a hook that cancels an
open context runs the registrations of that one, again in any order, before those that are left.  A
cascade is such a run, hook by hook.  It always comes to an end.  What it has ended and run at any
moment is described by `Progress`, which every hook preserves, so that at the end exactly the
contexts reached have been cancelled and exactly their registrations have run, each once.  The order
shows in the order of the runs only.
-/

namespace PgVitals

/-! ## Running hooks in any order -/

/-- Registrations that are being run. -/
structure Cascade where
  /-- Those still to run, the next one first. -/
  pending : List Registration
  /-- The contexts as they are now. -/
  contexts : Contexts
  /-- Those that have run, in the order of their runs. -/
  ran : List Registration

namespace Cascade

/-- The next registration runs.  If its hook cancels an open context, the registrations of that
context are put before the rest, in any order. -/
inductive Advance : Cascade → Cascade → Prop where
  | quiet {r : Registration} {rest ran : List Registration} {cs : Contexts}
      (h : ∀ id, r.hook.cancels = some id → (cs.count r.hook).end? id .cancelled = none) :
    Advance ⟨r :: rest, cs, ran⟩ ⟨rest, cs.count r.hook, ran ++ [r]⟩
  | ending {r : Registration} {rest ran order : List Registration} {cs cs' : Contexts}
      {id : ContextId} {hooks : List Hook} (hlink : r.hook.cancels = some id)
      (hend : (cs.count r.hook).end? id .cancelled = some (hooks, cs'))
      (horder : order.Perm (cs.registrationsOf id)) :
    Advance ⟨r :: rest, cs, ran⟩ ⟨order ++ rest, cs', ran ++ [r]⟩

/-- Registrations run one after the other. -/
abbrev Runs : Cascade → Cascade → Prop := Relation.ReflTransGen Advance

/-- There are fewer open contexts, or as many and fewer registrations to run. -/
theorem Advance.measure_lt {c c' : Cascade} (h : Advance c c') :
    Prod.Lex (· < ·) (· < ·) (c'.contexts.openCount, c'.pending.length)
      (c.contexts.openCount, c.pending.length) := by
  cases h with
  | quiet h => exact .right _ (Nat.lt_succ_self _)
  | @ending r _ _ _ cs cs' _ _ hlink hend horder =>
    have hlt : cs'.openCount < (cs.count r.hook).openCount := Contexts.openCount_lt_of_end? hend
    exact .left _ _ hlt

/-- No cascade goes on for ever. -/
theorem wellFounded_advance : WellFounded fun c' c : Cascade => Advance c c' :=
  Subrelation.wf Advance.measure_lt
    (InvImage.wf (fun c : Cascade => (c.contexts.openCount, c.pending.length))
      (Prod.lex Nat.lt_wfRel Nat.lt_wfRel).wf)

/-- A cascade stops only when nothing is left to run. -/
theorem exists_advance {c : Cascade} (h : c.pending ≠ []) : ∃ c', Advance c c' := by
  obtain ⟨_ | ⟨r, rest⟩, cs, ran⟩ := c
  · exact absurd rfl h
  · by_cases hquiet : ∀ id, r.hook.cancels = some id → (cs.count r.hook).end? id .cancelled = none
    · exact ⟨_, .quiet hquiet⟩
    · push Not at hquiet
      obtain ⟨id, hlink, hend⟩ := hquiet
      obtain ⟨⟨hooks, cs'⟩, hend⟩ := Option.ne_none_iff_exists'.1 hend
      exact ⟨_, .ending hlink hend (.refl _)⟩

/-- Running hooks in the order of their registrations is one of the orders. -/
theorem runs_settle (c : Cascade) :
    ∃ ran, Runs c ⟨[], Contexts.settle (c.pending.map Registration.hook) c.contexts, ran⟩ := by
  -- Not on the list of hooks: an ending puts more hooks in front, but leaves fewer contexts open.
  induction c using wellFounded_advance.induction with
  | _ c ih =>
    obtain ⟨_ | ⟨r, rest⟩, cs, ran⟩ := c
    · refine ⟨ran, ?_⟩
      rw [List.map_nil, Contexts.settle]
    · by_cases hquiet : ∀ id, r.hook.cancels = some id →
          (cs.count r.hook).end? id .cancelled = none
      · obtain ⟨ran', hruns⟩ := ih _ (.quiet hquiet)
        refine ⟨ran', .head (.quiet hquiet) ?_⟩
        rwa [List.map_cons, Contexts.settle_cons_of_quiet hquiet]
      · push Not at hquiet
        obtain ⟨id, hlink, hend⟩ := hquiet
        obtain ⟨⟨hooks, cs'⟩, hend⟩ := Option.ne_none_iff_exists'.1 hend
        obtain ⟨ran', hruns⟩ := ih _ (.ending hlink hend (.refl _))
        refine ⟨ran', .head (.ending hlink hend (.refl _)) ?_⟩
        obtain ⟨-, hhooks, -⟩ := Contexts.of_end?_eq_some hend
        rw [List.map_cons, Contexts.settle_cons_of_ending hlink hend, hhooks,
          Contexts.registrationsOf_count, ← List.map_append]
        exact hruns

/-! ## What a cascade has done -/

open Contexts

/-- What a cascade that began with the registrations `initial` has done: the contexts ended so far
are distinct and were to be reached, what began and their registrations have run or are still to
run, and what ran has ended the context it links to. -/
structure Progress (cs : Contexts) (target : Option ContextId) (initial : List Registration)
    (ended : List ContextId) (c : Cascade) : Prop where
  contexts_eq : c.contexts = cs.after ended c.ran
  distinct : ended.Nodup
  reached : ∀ id ∈ ended, cs.Reaches target id
  conserved : (c.ran ++ c.pending).Perm (initial ++ ended.flatMap cs.registrationsOf)
  followed : ∀ r ∈ c.ran, ∀ id, r.hook.cancels = some id → cs.isOpenAt id = true → id ∈ ended
  links : ∀ r ∈ initial, r.hook.cancels = target
  started : initial = [] → ∀ id, target = some id → cs.isOpenAt id = true → id ∈ ended

namespace Progress

variable {cs : Contexts} {target : Option ContextId} {initial : List Registration}
  {ended : List ContextId} {c c' : Cascade}

/-- A context is cancelled by a call. -/
theorem ofCancel {id : ContextId} {order : List Registration} (hopen : cs.isOpenAt id = true)
    (horder : order.Perm (cs.registrationsOf id)) :
    Progress cs (some id) [] [id] ⟨order, cs.after [id] [], []⟩ where
  contexts_eq := rfl
  distinct := List.nodup_singleton id
  reached := by
    intro other hother
    obtain rfl := List.mem_singleton.1 hother
    exact .target rfl hopen
  conserved := by
    rw [List.flatMap_singleton]
    exact horder
  followed := by
    intro r hr
    cases hr
  links := by
    intro r hr
    cases hr
  started := by
    intro _ other hother _
    cases hother
    exact List.mem_singleton_self id

/-- A registration runs at once. -/
theorem ofRegistration (cs : Contexts) (r : Registration) :
    Progress cs r.hook.cancels [r] [] ⟨[r], cs, []⟩ where
  contexts_eq := after_nil.symm
  distinct := List.nodup_nil
  reached := by
    intro id hid
    cases hid
  conserved := .refl _
  followed := by
    intro other hother
    cases hother
  links := by
    intro other hother
    rw [List.mem_singleton.1 hother]
  started := by
    intro h
    cases h

theorem mem_pending {r : Registration} (h : Progress cs target initial ended c)
    (hr : r ∈ c.pending) :
    r ∈ initial ∨ ∃ id ∈ ended, r ∈ cs.registrationsOf id := by
  have hmem := h.conserved.subset (List.mem_append_right c.ran hr)
  rwa [List.mem_append, List.mem_flatMap] at hmem

/-- The next registration runs, and its hook ends nothing. -/
theorem quiet {r : Registration} {rest ran : List Registration} {contexts : Contexts}
    (h : Progress cs target initial ended ⟨r :: rest, contexts, ran⟩)
    (hquiet : ∀ id, r.hook.cancels = some id →
      (contexts.count r.hook).end? id .cancelled = none) :
    Progress cs target initial ended ⟨rest, contexts.count r.hook, ran ++ [r]⟩ := by
  obtain rfl : contexts = cs.after ended ran := h.contexts_eq
  refine ⟨?_, h.distinct, h.reached, ?_, ?_, h.links, h.started⟩
  · rw [count_eq_after, after_after, List.append_nil]
  · rw [List.append_assoc]
    exact h.conserved
  · intro other hother id hlink hopen
    rcases List.mem_append.1 hother with hother | hother
    · exact h.followed other hother id hlink hopen
    · obtain rfl := List.mem_singleton.1 hother
      by_contra hid
      -- Otherwise the context is still open, and the hook would have ended it.
      have hopen' : ((cs.after ended ran).count other.hook).isOpenAt id = true := by
        rw [isOpenAt_count, isOpenAt_after_of_not_mem hid, hopen]
      have hquiet := hquiet id hlink
      rw [end?_of_isOpenAt hopen'] at hquiet
      cases hquiet

/-- The next registration runs, and its hook ends a context, whose registrations are put before the
rest in any order. -/
theorem ending {r : Registration} {rest ran order : List Registration}
    {contexts contexts' : Contexts} {id : ContextId} {hooks : List Hook}
    (h : Progress cs target initial ended ⟨r :: rest, contexts, ran⟩)
    (hlink : r.hook.cancels = some id)
    (hend : (contexts.count r.hook).end? id .cancelled = some (hooks, contexts'))
    (horder : order.Perm (contexts.registrationsOf id)) :
    Progress cs target initial (ended ++ [id]) ⟨order ++ rest, contexts', ran ++ [r]⟩ := by
  -- What is open and registered here is told by the start, since only the contexts of `ended` have
  -- changed.
  obtain rfl : contexts = cs.after ended ran := h.contexts_eq
  obtain ⟨hopen, -, rfl⟩ := of_end?_eq_some hend
  rw [isOpenAt_count] at hopen
  rw [registrationsOf_after] at horder
  have hid : id ∉ ended := by
    intro hid
    rw [isOpenAt_after_of_mem hid] at hopen
    cases hopen
  rw [isOpenAt_after_of_not_mem hid] at hopen
  refine ⟨?_, ?_, ?_, ?_, ?_, h.links, ?_⟩
  · rw [count_eq_after, after_after, after_after, List.append_nil]
    rfl
  · exact List.nodup_append'.2 ⟨h.distinct, List.nodup_singleton id, by simpa using hid⟩
  · intro other hother
    rcases List.mem_append.1 hother with hother | hother
    · exact h.reached other hother
    · obtain rfl := List.mem_singleton.1 hother
      rcases h.mem_pending List.mem_cons_self with hr | ⟨other, hother, hr⟩
      · exact .target ((h.links r hr).symm.trans hlink) hopen
      · exact .link (h.reached other hother) hr hlink hopen
  -- Conserved: what ran and what is pending are what there was to run, in another order.
  · have hswapped : (order ++ rest).Perm (rest ++ order) := List.perm_append_comm
    have hmoved : (ran ++ [r] ++ (order ++ rest)).Perm (ran ++ r :: rest ++ order) := by
      rw [List.append_assoc, List.append_assoc]
      exact (hswapped.cons r).append_left ran
    rw [List.flatMap_append, List.flatMap_singleton, ← List.append_assoc initial]
    exact hmoved.trans (h.conserved.append horder)
  · intro other hother next hlink' hopen'
    rcases List.mem_append.1 hother with hother | hother
    · exact List.mem_append_left _ (h.followed other hother next hlink' hopen')
    · obtain rfl := List.mem_singleton.1 hother
      obtain rfl : id = next := Option.some.inj (hlink.symm.trans hlink')
      exact List.mem_append_right _ (List.mem_singleton_self id)
  · intro hinitial other hother hopen'
    exact List.mem_append_left _ (h.started hinitial other hother hopen')

/-- Whichever registration runs next, and in whatever order those of a context that it ends are
run. -/
theorem advance (h : Progress cs target initial ended c) (hadvance : Advance c c') :
    ∃ ended', Progress cs target initial ended' c' := by
  cases hadvance with
  | quiet hquiet => exact ⟨ended, h.quiet hquiet⟩
  | ending hlink hend horder => exact ⟨_, h.ending hlink hend horder⟩

theorem run (h : Progress cs target initial ended c) (hruns : Runs c c') :
    ∃ ended', Progress cs target initial ended' c' := by
  induction hruns with
  | refl => exact ⟨ended, h⟩
  | tail _ hadvance ih =>
    obtain ⟨_, h⟩ := ih
    exact h.advance hadvance

/-- When nothing is left to run, all that is reached has ended. -/
theorem mem_ended_iff (h : Progress cs target initial ended c) (hdone : c.pending = [])
    {id : ContextId} : id ∈ ended ↔ cs.Reaches target id := by
  have hran : c.ran.Perm (initial ++ ended.flatMap cs.registrationsOf) := by
    rw [← List.append_nil c.ran, ← hdone]
    exact h.conserved
  refine ⟨h.reached id, fun hreaches => ?_⟩
  -- Along the links by which it is reached: whatever ran has ended the context it links to.
  induction hreaches with
  | @target id htarget hopen =>
    cases hinitial : initial with
    | nil => exact h.started hinitial id htarget hopen
    | cons r rest =>
      have hr : r ∈ initial := hinitial ▸ List.mem_cons_self
      exact h.followed r (hran.symm.subset (List.mem_append_left _ hr)) id
        ((h.links r hr).trans htarget) hopen
  | @link id next r _ hr hlink hopen ih =>
    have hmem : r ∈ ended.flatMap cs.registrationsOf := List.mem_flatMap.2 ⟨id, ih, hr⟩
    exact h.followed r (hran.symm.subset (List.mem_append_right _ hmem)) next hlink hopen

end Progress

end Cascade

/-! ## What a whole cascade does -/

namespace Contexts

/-- Exactly the contexts reached have been cancelled, and exactly the registrations that began and
those of the contexts reached have run. -/
structure Spreads (cs : Contexts) (target : Option ContextId) (initial : List Registration)
    (ended : List ContextId) (ran : List Registration) (cs' : Contexts) : Prop where
  distinct : ended.Nodup
  mem_iff : ∀ id, id ∈ ended ↔ cs.Reaches target id
  ran_perm : ran.Perm (initial ++ ended.flatMap cs.registrationsOf)
  contexts_eq : cs' = cs.after ended ran

variable {cs cs' cs₁ cs₂ : Contexts} {target : Option ContextId} {id : ContextId} {hook : Hook}
  {initial ran ran' : List Registration} {ended ended' : List ContextId}

theorem spreads_of_runs {c : Cascade} (h : Cascade.Progress cs target initial ended c)
    (hrun : c.Runs ⟨[], cs', ran⟩) : ∃ ended', cs.Spreads target initial ended' ran cs' := by
  obtain ⟨ended', h⟩ := h.run hrun
  refine ⟨ended', h.distinct, fun id => h.mem_ended_iff rfl, ?_, h.contexts_eq⟩
  have hconserved := h.conserved
  rwa [List.append_nil] at hconserved

namespace Spreads

theorem mem_ran_iff (h : cs.Spreads target initial ended ran cs') {r : Registration} :
    r ∈ ran ↔ r ∈ initial ∨ ∃ id, cs.Reaches target id ∧ r ∈ cs.registrationsOf id := by
  rw [h.ran_perm.mem_iff, List.mem_append, List.mem_flatMap]
  simp only [h.mem_iff]

theorem cause?_of_reaches (h : cs.Spreads target initial ended ran cs') {id : ContextId}
    (hid : cs.Reaches target id) : cs'.cause? id = some .cancelled := by
  rw [h.contexts_eq]
  exact cause?_after_of_mem hid.isOpenAt ((h.mem_iff id).2 hid)

theorem cause?_of_not_reaches (h : cs.Spreads target initial ended ran cs') {id : ContextId}
    (hid : ¬cs.Reaches target id) : cs'.cause? id = cs.cause? id := by
  rw [h.contexts_eq]
  exact cause?_after_of_not_mem (mt (h.mem_iff id).1 hid)

theorem cause?_of_ended (h : cs.Spreads target initial ended ran cs') {id : ContextId}
    {cause : Cause} (hcause : cs.cause? id = some cause) : cs'.cause? id = some cause := by
  rw [h.cause?_of_not_reaches, hcause]
  intro hreaches
  rw [cause?_of_isOpenAt hreaches.isOpenAt] at hcause
  cases hcause

theorem registrationsOf_eq (h : cs.Spreads target initial ended ran cs') (id : ContextId) :
    cs'.registrationsOf id = cs.registrationsOf id := by
  rw [h.contexts_eq]
  exact registrationsOf_after id

theorem length_eq (h : cs.Spreads target initial ended ran cs') :
    cs'.all.length = cs.all.length := by
  rw [h.contexts_eq]
  exact List.length_mapIdx

/-- A context that is open afterwards was open and not reached. -/
theorem of_isOpenAt (h : cs.Spreads target initial ended ran cs') {id : ContextId}
    (hopen : cs'.isOpenAt id = true) : cs.isOpenAt id = true ∧ ¬cs.Reaches target id := by
  rw [h.contexts_eq] at hopen
  have hid : id ∉ ended := by
    intro hid
    rw [isOpenAt_after_of_mem hid] at hopen
    cases hopen
  rw [isOpenAt_after_of_not_mem hid] at hopen
  exact ⟨hopen, mt (h.mem_iff id).2 hid⟩

/-- The order in which registrations ran does not show in the contexts that ended nor in which
registrations ran. -/
theorem perm (hall : cs.all = cs'.all) (h : cs.Spreads target initial ended ran cs₁)
    (h' : cs'.Spreads target initial ended' ran' cs₂) : ended.Perm ended' ∧ ran.Perm ran' := by
  have hended : ended.Perm ended' := by
    refine (List.perm_ext_iff_of_nodup h.distinct h'.distinct).2 fun id => ?_
    rw [h.mem_iff, h'.mem_iff]
    exact ⟨.congr hall, .congr hall.symm⟩
  have hregistrations : cs.registrationsOf = cs'.registrationsOf :=
    funext fun id => registrationsOf_congr hall id
  refine ⟨hended, h.ran_perm.trans (.trans ?_ h'.ran_perm.symm)⟩
  rw [hregistrations]
  exact (hended.flatMap_right _).append_left initial

theorem all_eq (hall : cs.all = cs'.all) (h : cs.Spreads target initial ended ran cs₁)
    (h' : cs'.Spreads target initial ended' ran' cs₂) : cs₁.all = cs₂.all := by
  have hmem : ∀ id, id ∈ ended ↔ id ∈ ended' := fun id => (h.perm hall h').1.mem_iff
  rw [h.contexts_eq, h'.contexts_eq]
  simp only [after, hall, hmem]

end Spreads

/-! ## Cancelling and registering, in any order -/

/-- A call cancels a context, and the registrations of the contexts that end run in any order. -/
inductive Cancels (cs : Contexts) (id : ContextId) : List Registration → Contexts → Prop where
  | ended (h : cs.end? id .cancelled = none) : Cancels cs id [] cs
  | opened {hooks : List Hook} {order ran : List Registration} {cs₁ cs₂ : Contexts}
      (h : cs.end? id .cancelled = some (hooks, cs₁)) (horder : order.Perm (cs.registrationsOf id))
      (hrun : Cascade.Runs ⟨order, cs₁, []⟩ ⟨[], cs₂, ran⟩) : Cancels cs id ran cs₂

/-- A call registers a hook, which runs at once if the context has ended; the registrations of the
contexts that this ends run in any order. -/
inductive Registers (cs : Contexts) (id : ContextId) (hook : Hook) :
    List Registration → Contexts → Prop where
  | waiting (h : (cs.enlisted id hook).cause? id = none) :
    Registers cs id hook [] (cs.enlisted id hook)
  | atOnce {cause : Cause} {ran : List Registration} {cs' : Contexts}
      (h : (cs.enlisted id hook).cause? id = some cause)
      (hrun : Cascade.Runs ⟨[cs.nextRegistration hook], cs.enlisted id hook, []⟩ ⟨[], cs', ran⟩) :
    Registers cs id hook ran cs'

/-- What the call does in the order of the registrations is one of these ways. -/
theorem cancels_cancel (cs : Contexts) (id : ContextId) :
    ∃ ran, cs.Cancels id ran (cs.cancel id) := by
  rw [cancel, conclude]
  cases hend : cs.end? id .cancelled with
  | none => exact ⟨[], .ended hend⟩
  | some ended =>
    obtain ⟨hooks, cs₁⟩ := ended
    obtain ⟨-, rfl, -⟩ := of_end?_eq_some hend
    obtain ⟨ran, hrun⟩ := Cascade.runs_settle ⟨cs.registrationsOf id, cs₁, []⟩
    exact ⟨ran, .opened hend (.refl _) hrun⟩

theorem registers_register (cs : Contexts) (id : ContextId) (hook : Hook) :
    ∃ ran, cs.Registers id hook ran (cs.register id hook).2 := by
  have hregister : (cs.register id hook).2 =
      if ((cs.enlisted id hook).cause? id).isSome then settle [hook] (cs.enlisted id hook)
      else cs.enlisted id hook := rfl
  rw [hregister]
  cases hcause : (cs.enlisted id hook).cause? id with
  | none => exact ⟨[], .waiting hcause⟩
  | some cause =>
    obtain ⟨ran, hrun⟩ :=
      Cascade.runs_settle ⟨[cs.nextRegistration hook], cs.enlisted id hook, []⟩
    exact ⟨ran, .atOnce hcause hrun⟩

theorem not_reaches_of_not_isOpenAt {id : ContextId} (h : cs.isOpenAt id = false)
    {other : ContextId} : ¬cs.Reaches (some id) other := by
  intro hreaches
  induction hreaches with
  | target htarget hopen =>
    cases htarget
    rw [h] at hopen
    cases hopen
  | link _ _ _ _ ih => exact ih

theorem Cancels.spreads {id : ContextId} (h : cs.Cancels id ran cs') :
    ∃ ended, cs.Spreads (some id) [] ended ran cs' := by
  cases h with
  | ended hend =>
    have hopen : cs.isOpenAt id = false := by
      cases hopen : cs.isOpenAt id with
      | false => rfl
      | true =>
        rw [end?_of_isOpenAt hopen] at hend
        cases hend
    exact ⟨[], List.nodup_nil, fun other => by simp [not_reaches_of_not_isOpenAt hopen], .refl _,
      after_nil.symm⟩
  | opened hend horder hrun =>
    obtain ⟨hopen, -, rfl⟩ := of_end?_eq_some hend
    exact spreads_of_runs (.ofCancel hopen horder) hrun

/-- A hook registered on an open context waits. -/
theorem Registers.eq_of_waiting (h : cs.Registers id hook ran cs') (hcause : cs.cause? id = none) :
    ran = [] ∧ cs' = cs.enlisted id hook := by
  cases h with
  | waiting h => exact ⟨rfl, rfl⟩
  | atOnce h hrun =>
    rw [cause?_enlisted, hcause] at h
    cases h

/-- A hook registered on a context that has ended runs at once. -/
theorem Registers.spreads_of_ended (h : cs.Registers id hook ran cs') {cause : Cause}
    (hcause : cs.cause? id = some cause) :
    ∃ ended, (cs.enlisted id hook).Spreads hook.cancels [cs.nextRegistration hook] ended ran
      cs' := by
  cases h with
  | waiting h =>
    rw [cause?_enlisted, hcause] at h
    cases h
  | atOnce h hrun => exact spreads_of_runs (.ofRegistration _ (cs.nextRegistration hook)) hrun

end Contexts

end PgVitals

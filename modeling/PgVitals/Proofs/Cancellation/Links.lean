import PgVitals.Cancellation

/-!
# Links between contexts

A registration whose hook cancels a context is a link to it.  A context is reached from another one
through the registrations of contexts that are open, by way of open contexts only; links may form
cycles.  Ending contexts takes nothing from their registrations, so what is reached can be told
before any of them ends.
-/

namespace PgVitals

namespace Contexts

variable {cs cs' : Contexts} {id : ContextId}

/-! ## What is known of a context -/

/-- Whether there is such a context and it has not ended. -/
def isOpenAt (cs : Contexts) (id : ContextId) : Bool := (cs.context? id).any Context.isOpen

/-- The registrations on a context that have not been taken back. -/
def registrationsOf (cs : Contexts) (id : ContextId) : List Registration :=
  ((cs.context? id).map Context.registrations).getD []

theorem cause?_of_isOpenAt (h : cs.isOpenAt id = true) : cs.cause? id = none := by
  rw [isOpenAt] at h
  rw [cause?]
  cases hc : cs.context? id with
  | none => rfl
  | some c =>
    rw [hc] at h
    exact Option.isNone_iff_eq_none.1 h

theorem isOpenAt_of_cause? {cause : Cause} (h : cs.cause? id = some cause) :
    cs.isOpenAt id = false := by
  cases hopen : cs.isOpenAt id with
  | false => rfl
  | true =>
    rw [cause?_of_isOpenAt hopen] at h
    cases h

theorem eq_of_context? (hnow : cs.now = cs'.now) (hregistered : cs.registered = cs'.registered)
    (hruns : cs.runs = cs'.runs) (h : ∀ id, cs.context? id = cs'.context? id) : cs = cs' := by
  obtain ⟨now, all, registered, runs⟩ := cs
  obtain ⟨now', all', registered', runs'⟩ := cs'
  obtain rfl : all = all' := List.ext_getElem? h
  obtain rfl : now = now' := hnow
  obtain rfl : registered = registered' := hregistered
  obtain rfl : runs = runs' := hruns
  rfl

theorem context?_congr (h : cs.all = cs'.all) (id : ContextId) :
    cs.context? id = cs'.context? id := by
  rw [context?, context?, h]

theorem isOpenAt_congr (h : cs.all = cs'.all) (id : ContextId) :
    cs.isOpenAt id = cs'.isOpenAt id := by
  rw [isOpenAt, isOpenAt, context?_congr h]

theorem registrationsOf_congr (h : cs.all = cs'.all) (id : ContextId) :
    cs.registrationsOf id = cs'.registrationsOf id := by
  rw [registrationsOf, registrationsOf, context?_congr h]

theorem cause?_congr (h : cs.all = cs'.all) (id : ContextId) : cs.cause? id = cs'.cause? id := by
  rw [cause?, cause?, context?_congr h]

/-! ## Contexts that were cancelled and hooks that ran -/

/-- The contexts after some of them were cancelled and the hooks of some registrations ran. -/
def after (cs : Contexts) (ended : List ContextId) (ran : List Registration) : Contexts :=
  { cs with
    all := cs.all.mapIdx fun id c => if id ∈ ended then { c with cause := some .cancelled } else c
    runs := cs.runs ++ ran.map fun r => r.hook.name }

variable {ended : List ContextId} {ran : List Registration}

theorem context?_after (id : ContextId) :
    (cs.after ended ran).context? id =
      (cs.context? id).map fun c => if id ∈ ended then { c with cause := some .cancelled } else c :=
  List.getElem?_mapIdx

theorem registrationsOf_after (id : ContextId) :
    (cs.after ended ran).registrationsOf id = cs.registrationsOf id := by
  rw [registrationsOf, registrationsOf, context?_after, Option.map_map]
  congr 2
  funext c
  by_cases hid : id ∈ ended <;> simp [hid]

theorem cause?_after_of_not_mem (h : id ∉ ended) :
    (cs.after ended ran).cause? id = cs.cause? id := by
  rw [cause?, cause?, context?_after]
  simp only [if_neg h, Option.map_id']

theorem cause?_after_of_mem (hopen : cs.isOpenAt id = true) (h : id ∈ ended) :
    (cs.after ended ran).cause? id = some .cancelled := by
  rw [isOpenAt] at hopen
  rw [cause?, context?_after]
  cases hc : cs.context? id with
  | none => rw [hc] at hopen; cases hopen
  | some c => simp only [if_pos h, Option.map_some, Option.bind_some]

theorem isOpenAt_after_of_not_mem (h : id ∉ ended) :
    (cs.after ended ran).isOpenAt id = cs.isOpenAt id := by
  rw [isOpenAt, isOpenAt, context?_after]
  simp only [if_neg h, Option.map_id']

theorem isOpenAt_after_of_mem (h : id ∈ ended) : (cs.after ended ran).isOpenAt id = false := by
  rw [isOpenAt, context?_after]
  cases cs.context? id with
  | none => rfl
  | some c =>
    simp only [if_pos h, Option.map_some]
    rfl

theorem after_nil : cs.after [] [] = cs := by
  refine eq_of_context? rfl rfl (List.append_nil _) fun id => ?_
  rw [context?_after]
  simp only [List.not_mem_nil, if_false, Option.map_id']

theorem after_after (ended' : List ContextId) (ran' : List Registration) :
    (cs.after ended ran).after ended' ran' = cs.after (ended ++ ended') (ran ++ ran') := by
  refine eq_of_context? rfl rfl ?_ fun id => ?_
  · simp only [after, List.map_append, List.append_assoc]
  · rw [context?_after, context?_after, context?_after, Option.map_map]
    congr 1
    funext c
    by_cases h : id ∈ ended <;> by_cases h' : id ∈ ended' <;> simp [h, h']

theorem count_eq_after (r : Registration) : cs.count r.hook = cs.after [] [r] := by
  refine eq_of_context? rfl rfl rfl fun id => ?_
  rw [context?_after]
  simp only [List.not_mem_nil, if_false, Option.map_id']
  rfl

theorem end?_of_isOpenAt (h : cs.isOpenAt id = true) :
    cs.end? id .cancelled =
      some ((cs.registrationsOf id).map Registration.hook, cs.after [id] []) := by
  rw [isOpenAt] at h
  cases hc : cs.context? id with
  | none => rw [hc] at h; cases h
  | some c =>
    rw [hc] at h
    have hregistrations : cs.registrationsOf id = c.registrations := by
      rw [registrationsOf, hc]
      rfl
    have hafter : { cs with all := cs.all.set id { c with cause := some .cancelled } } =
        cs.after [id] [] := by
      refine eq_of_context? rfl rfl (List.append_nil _).symm fun other => ?_
      rw [context?_after]
      by_cases hother : other = id
      · subst hother
        rw [hc]
        simp only [context?, List.getElem?_set_self', List.mem_singleton, if_true]
        rw [context?] at hc
        rw [hc]
        rfl
      · simp only [context?, List.getElem?_set_ne (Ne.symm hother), List.mem_singleton,
          if_neg hother, Option.map_id']
    have hopen : c.isOpen = true := h
    rw [context?] at hc
    simp only [end?, hc, hopen, if_true, hregistrations, hafter]

theorem end?_of_not_isOpenAt (h : cs.isOpenAt id = false) (cause : Cause) :
    cs.end? id cause = none := by
  rw [isOpenAt, context?] at h
  rw [end?]
  cases hc : cs.all[id]? with
  | none => rfl
  | some c =>
    rw [hc] at h
    change c.isOpen = false at h
    simp only [h, Bool.false_eq_true, if_false]

/-- Ending a context that is open is the only way in which anything ends. -/
theorem of_end?_eq_some {hooks : List Hook}
    (h : cs.end? id .cancelled = some (hooks, cs')) :
    cs.isOpenAt id = true ∧ hooks = (cs.registrationsOf id).map Registration.hook ∧
      cs' = cs.after [id] [] := by
  cases hopen : cs.isOpenAt id with
  | false =>
    rw [end?_of_not_isOpenAt hopen] at h
    cases h
  | true =>
    rw [end?_of_isOpenAt hopen] at h
    cases h
    exact ⟨rfl, rfl, rfl⟩

theorem isOpenAt_count (hook : Hook) (id : ContextId) :
    (cs.count hook).isOpenAt id = cs.isOpenAt id := isOpenAt_congr rfl id

theorem registrationsOf_count (hook : Hook) (id : ContextId) :
    (cs.count hook).registrationsOf id = cs.registrationsOf id := registrationsOf_congr rfl id

/-! ## Running hooks in their order -/

theorem settle_cons_of_quiet {hook : Hook}
    (h : ∀ id, hook.cancels = some id → (cs.count hook).end? id .cancelled = none)
    (rest : List Hook) : settle (hook :: rest) cs = settle rest (cs.count hook) := by
  rw [settle]
  split
  · rfl
  · rename_i id hlink
    split
    · rfl
    · rename_i hend
      rw [h id hlink] at hend
      cases hend

theorem settle_cons_of_ending {hook : Hook} {hooks : List Hook} (hlink : hook.cancels = some id)
    (hend : (cs.count hook).end? id .cancelled = some (hooks, cs')) (rest : List Hook) :
    settle (hook :: rest) cs = settle (hooks ++ rest) cs' := by
  rw [settle]
  simp only [hlink]
  split
  · rename_i hnone
    rw [hend] at hnone
    cases hnone
  · rename_i hsome
    rw [hend] at hsome
    cases hsome
    rfl

/-! ## What is reached -/

/-- The open contexts to which a call that cancels the target leads: the target, and whatever the
registrations of these link to. -/
inductive Reaches (cs : Contexts) (target : Option ContextId) : ContextId → Prop where
  | target {id : ContextId} (h : target = some id) (hopen : cs.isOpenAt id = true) :
    Reaches cs target id
  | link {id next : ContextId} {r : Registration} (h : Reaches cs target id)
      (hr : r ∈ cs.registrationsOf id) (hlink : r.hook.cancels = some next)
      (hopen : cs.isOpenAt next = true) : Reaches cs target next

namespace Reaches

variable {target : Option ContextId}

theorem isOpenAt (h : cs.Reaches target id) : cs.isOpenAt id = true := by
  cases h with
  | target h hopen => exact hopen
  | link h hr hlink hopen => exact hopen

theorem congr (hall : cs.all = cs'.all) (h : cs.Reaches target id) : cs'.Reaches target id := by
  induction h with
  | target h hopen => exact .target h (isOpenAt_congr hall _ ▸ hopen)
  | link h hr hlink hopen ih =>
    exact .link ih (registrationsOf_congr hall _ ▸ hr) hlink (isOpenAt_congr hall _ ▸ hopen)

end Reaches

end Contexts

end PgVitals

import PgVitals.Proofs.Cancellation.Cascade

/-!
# Registrations and their runs

Registrations are told apart by their numbers.  A tally of the runs is in order when each
registration has run at most once and those on open contexts have not run yet.  Making a context,
registering a hook, taking a registration back and every cascade keep it in order.  A registration
that was taken back before it ran is retired: it stays out of the tally for good.
-/

namespace PgVitals

namespace Contexts

variable {cs cs' : Contexts} {id : ContextId}

/-! ## The tally -/

/-- The registrations have numbers of their own, each has run once at most, and none on an open
context has run. -/
structure Tallied (cs : Contexts) (ran : List Registration) : Prop where
  below : ∀ id, ∀ r ∈ cs.registrationsOf id, r.number < cs.registered
  distinct : ∀ id, ((cs.registrationsOf id).map Registration.number).Nodup
  apart : ∀ {id id' : ContextId} {r r' : Registration}, r ∈ cs.registrationsOf id →
    r' ∈ cs.registrationsOf id' → r.number = r'.number → id = id'
  past : ∀ r ∈ ran, r.number < cs.registered
  once : (ran.map Registration.number).Nodup
  waiting : ∀ id, cs.isOpenAt id = true → ∀ r ∈ cs.registrationsOf id,
    r.number ∉ ran.map Registration.number

namespace Tallied

variable {ran new initial : List Registration} {target : Option ContextId}
  {ended : List ContextId}

theorem add (h : cs.Tallied ran) {c : Context} (hc : c.registrations = []) :
    (cs.add c).2.Tallied ran where
  below id r hr := h.below id r (registrationsOf_add hc id ▸ hr)
  distinct id := by
    rw [registrationsOf_add hc]
    exact h.distinct id
  apart := by
    intro id id' r r' hr hr' hnumber
    rw [registrationsOf_add hc] at hr hr'
    exact h.apart hr hr' hnumber
  past := h.past
  once := h.once
  waiting := by
    intro id hopen r hr
    rw [registrationsOf_add hc] at hr
    refine h.waiting id ?_ r hr
    have hlt : id < cs.all.length := by
      by_contra hlt
      rw [registrationsOf, context?, List.getElem?_eq_none_iff.2 (Nat.le_of_not_lt hlt)] at hr
      cases hr
    rwa [isOpenAt, context?_add_of_lt c hlt] at hopen

theorem enlisted (h : cs.Tallied ran) (hid : id < cs.all.length) (hook : Hook) :
    (cs.enlisted id hook).Tallied ran := by
  have hbelow : ∀ other, ∀ r ∈ (cs.enlisted id hook).registrationsOf other,
      r.number < cs.registered + 1 := by
    intro other r hr
    rcases (mem_registrationsOf_enlisted hid).1 hr with hr | ⟨-, rfl⟩
    · exact Nat.lt_succ_of_lt (h.below other r hr)
    · exact Nat.lt_succ_self _
  refine ⟨hbelow, fun other => ?_, ?_, fun r hr => Nat.lt_succ_of_lt (h.past r hr), h.once, ?_⟩
  · rw [registrationsOf_enlisted hid]
    by_cases hother : id = other
    · rw [if_pos hother, List.map_append]
      refine List.nodup_append'.2 ⟨h.distinct other, List.nodup_singleton _, ?_⟩
      intro number hold hnew
      obtain ⟨r, hr, rfl⟩ := List.mem_map.1 hold
      exact absurd (List.mem_singleton.1 hnew) (Nat.ne_of_lt (h.below other r hr))
    · rw [if_neg hother, List.append_nil]
      exact h.distinct other
  -- Two registrations of one number: both old, or one old and one new, which cannot be, or both the
  -- new one.
  · intro other other' r r' hr hr' hnumber
    rcases (mem_registrationsOf_enlisted hid).1 hr with hr | ⟨rfl, rfl⟩ <;>
      rcases (mem_registrationsOf_enlisted hid).1 hr' with hr' | ⟨rfl, rfl⟩
    · exact h.apart hr hr' hnumber
    · exact absurd hnumber (Nat.ne_of_lt (h.below other r hr))
    · exact absurd hnumber.symm (Nat.ne_of_lt (h.below other' r' hr'))
    · rfl
  · intro other hopen r hr
    rw [isOpenAt_enlisted] at hopen
    rcases (mem_registrationsOf_enlisted hid).1 hr with hr | ⟨-, rfl⟩
    · exact h.waiting other hopen r hr
    · intro hran
      obtain ⟨r, hr, hnumber⟩ := List.mem_map.1 hran
      exact absurd hnumber (Nat.ne_of_lt (h.past r hr))

theorem unregister (h : cs.Tallied ran) (id : ContextId) (number : Nat) :
    (cs.unregister id number).Tallied ran where
  below other r hr := h.below other r (mem_registrationsOf_unregister hr)
  distinct other := by
    rw [registrationsOf_unregister]
    by_cases hother : id = other
    · rw [if_pos hother]
      exact (h.distinct other).sublist (List.filter_sublist.map _)
    · rw [if_neg hother]
      exact h.distinct other
  apart hr hr' hnumber :=
    h.apart (mem_registrationsOf_unregister hr) (mem_registrationsOf_unregister hr') hnumber
  past := h.past
  once := h.once
  waiting := by
    intro other hopen r hr
    rw [Contexts.unregister, isOpenAt_modify] at hopen
    · exact h.waiting other hopen r (mem_registrationsOf_unregister hr)
    · intro c
      rfl

end Tallied

/-- The registrations are on contexts that have ended, and have not run yet. -/
structure Overdue (cs : Contexts) (ran initial : List Registration) : Prop where
  distinct : (initial.map Registration.number).Nodup
  unran : ∀ r ∈ initial, r.number ∉ ran.map Registration.number
  ended : ∀ r ∈ initial, ∃ id, cs.isOpenAt id = false ∧ r ∈ cs.registrationsOf id

theorem overdue_nil (cs : Contexts) (ran : List Registration) : cs.Overdue ran [] := by
  refine ⟨List.nodup_nil, fun r hr => ?_, fun r hr => ?_⟩
  · cases hr
  · cases hr

/-- A hook registered on a context that has ended is overdue. -/
theorem Tallied.overdue_enlisted {ran : List Registration} (h : cs.Tallied ran)
    (hid : id < cs.all.length) {cause : Cause} (hcause : cs.cause? id = some cause) (hook : Hook) :
    (cs.enlisted id hook).Overdue ran [cs.nextRegistration hook] := by
  refine ⟨List.nodup_singleton _, fun r hr => ?_, fun r hr => ?_⟩
  · rw [List.mem_singleton.1 hr]
    intro hran
    obtain ⟨r, hr, hnumber⟩ := List.mem_map.1 hran
    exact absurd hnumber (Nat.ne_of_lt (h.past r hr))
  · rw [List.mem_singleton.1 hr]
    refine ⟨id, ?_, (mem_registrationsOf_enlisted hid).2 (Or.inr ⟨rfl, rfl⟩)⟩
    rw [isOpenAt_enlisted]
    exact isOpenAt_of_cause? hcause

namespace Tallied

variable {ran new initial : List Registration} {target : Option ContextId}
  {ended : List ContextId}

theorem ne_of_overdue (h : cs.Tallied ran) (hinitial : cs.Overdue ran initial)
    {r r' : Registration} (hr : r ∈ initial) (hopen : cs.isOpenAt id = true)
    (hr' : r' ∈ cs.registrationsOf id) : r.number ≠ r'.number := by
  intro hnumber
  obtain ⟨id', hclosed, hr⟩ := hinitial.ended r hr
  obtain rfl := h.apart hr hr' hnumber
  rw [hopen] at hclosed
  cases hclosed

/-- What a cascade runs has not run before. -/
theorem unran_of_mem (h : cs.Tallied ran) (hinitial : cs.Overdue ran initial)
    (hspreads : cs.Spreads target initial ended new cs') {r : Registration} (hr : r ∈ new) :
    r.number < cs.registered ∧ r.number ∉ ran.map Registration.number := by
  rcases hspreads.mem_ran_iff.1 hr with hr | ⟨id, hreaches, hr⟩
  · obtain ⟨id, -, hmem⟩ := hinitial.ended r hr
    exact ⟨h.below id r hmem, hinitial.unran r hr⟩
  · exact ⟨h.below id r hr, h.waiting id hreaches.isOpenAt r hr⟩

/-- A cascade runs each registration once. -/
theorem nodup_of_spreads (h : cs.Tallied ran) (hinitial : cs.Overdue ran initial)
    (hspreads : cs.Spreads target initial ended new cs') :
    (new.map Registration.number).Nodup := by
  rw [(hspreads.ran_perm.map Registration.number).nodup_iff, List.map_append, List.map_flatMap]
  -- What ran are the hooks at the start and those of the contexts ended: no number twice within one
  -- context, none shared by two, and none shared with the start.
  refine List.nodup_append'.2 ⟨hinitial.distinct, List.nodup_flatMap.2 ⟨fun id _ => h.distinct id,
    hspreads.distinct.imp fun {id id'} hne => ?_⟩, ?_⟩
  · intro number hnumber hnumber'
    obtain ⟨r, hr, rfl⟩ := List.mem_map.1 hnumber
    obtain ⟨r', hr', hnumber⟩ := List.mem_map.1 hnumber'
    exact hne (h.apart hr hr' hnumber.symm)
  · intro number hnumber hnumber'
    obtain ⟨r, hr, rfl⟩ := List.mem_map.1 hnumber
    obtain ⟨id, hid, hnumber'⟩ := List.mem_flatMap.1 hnumber'
    obtain ⟨r', hr', hnumber⟩ := List.mem_map.1 hnumber'
    exact h.ne_of_overdue hinitial hr ((hspreads.mem_iff id).1 hid).isOpenAt hr' hnumber.symm

theorem spreads (h : cs.Tallied ran) (hinitial : cs.Overdue ran initial)
    (hspreads : cs.Spreads target initial ended new cs') : cs'.Tallied (ran ++ new) := by
  have hregistered : cs'.registered = cs.registered := by
    rw [hspreads.contexts_eq]
    rfl
  refine ⟨?_, ?_, ?_, ?_, ?_, ?_⟩
  · intro id r hr
    rw [hregistered]
    exact h.below id r (hspreads.registrationsOf_eq id ▸ hr)
  · intro id
    rw [hspreads.registrationsOf_eq]
    exact h.distinct id
  · intro id id' r r' hr hr' hnumber
    rw [hspreads.registrationsOf_eq] at hr hr'
    exact h.apart hr hr' hnumber
  · intro r hr
    rw [hregistered]
    exact (List.mem_append.1 hr).elim (h.past r) fun hr => (h.unran_of_mem hinitial hspreads hr).1
  · rw [List.map_append]
    refine List.nodup_append'.2 ⟨h.once, h.nodup_of_spreads hinitial hspreads, ?_⟩
    intro number hold hnew
    obtain ⟨r, hr, rfl⟩ := List.mem_map.1 hnew
    exact (h.unran_of_mem hinitial hspreads hr).2 hold
  · intro id hopen r hr
    obtain ⟨hopen, hnot⟩ := hspreads.of_isOpenAt hopen
    rw [hspreads.registrationsOf_eq] at hr
    rw [List.map_append, List.mem_append, not_or]
    refine ⟨h.waiting id hopen r hr, fun hnew => ?_⟩
    obtain ⟨r', hr', hnumber⟩ := List.mem_map.1 hnew
    rcases hspreads.mem_ran_iff.1 hr' with hr' | ⟨id', hreaches, hr'⟩
    · exact h.ne_of_overdue hinitial hr' hopen hr hnumber
    · obtain rfl := h.apart hr' hr hnumber
      exact hnot hreaches

end Tallied

/-! ## Registrations taken back -/

/-- The registration of a number has been taken back without having run. -/
structure Retired (cs : Contexts) (ran : List Registration) (number : Nat) : Prop where
  past : number < cs.registered
  gone : ∀ id, ∀ r ∈ cs.registrationsOf id, r.number ≠ number
  unran : ∀ r ∈ ran, r.number ≠ number

/-- A registration taken back from a context that is open is retired. -/
theorem Tallied.retired {ran : List Registration} (h : cs.Tallied ran)
    (hopen : cs.isOpenAt id = true) {r : Registration} (hr : r ∈ cs.registrationsOf id) :
    (cs.unregister id r.number).Retired ran r.number := by
  refine ⟨h.below id r hr, fun other r' hr' hnumber => ?_, fun r' hr' hnumber => ?_⟩
  · obtain rfl := h.apart (mem_registrationsOf_unregister hr') hr hnumber
    rw [registrationsOf_unregister, if_pos rfl] at hr'
    have hne := (List.mem_filter.1 hr').2
    rw [hnumber] at hne
    simp at hne
  · exact h.waiting id hopen r hr (hnumber ▸ List.mem_map_of_mem hr')

namespace Retired

variable {ran new initial : List Registration} {target : Option ContextId}
  {ended : List ContextId} {number : Nat}

theorem add (h : cs.Retired ran number) {c : Context} (hc : c.registrations = []) :
    (cs.add c).2.Retired ran number := by
  refine ⟨h.past, fun id r hr => ?_, h.unran⟩
  rw [registrationsOf_add hc] at hr
  exact h.gone id r hr

theorem enlisted (h : cs.Retired ran number) (hid : id < cs.all.length) (hook : Hook) :
    (cs.enlisted id hook).Retired ran number := by
  refine ⟨Nat.lt_succ_of_lt h.past, fun other r hr => ?_, h.unran⟩
  rcases (mem_registrationsOf_enlisted hid).1 hr with hr | ⟨-, rfl⟩
  · exact h.gone other r hr
  · exact Ne.symm (Nat.ne_of_lt h.past)

theorem unregister (h : cs.Retired ran number) (id : ContextId) (other : Nat) :
    (cs.unregister id other).Retired ran number :=
  ⟨h.past, fun id r hr => h.gone id r (mem_registrationsOf_unregister hr), h.unran⟩

theorem spreads (h : cs.Retired ran number) (hinitial : ∀ r ∈ initial, r.number ≠ number)
    (hspreads : cs.Spreads target initial ended new cs') : cs'.Retired (ran ++ new) number := by
  refine ⟨?_, fun id r hr => h.gone id r (hspreads.registrationsOf_eq id ▸ hr), fun r hr => ?_⟩
  · rw [hspreads.contexts_eq]
    exact h.past
  · rcases List.mem_append.1 hr with hr | hr
    · exact h.unran r hr
    · rcases hspreads.mem_ran_iff.1 hr with hr | ⟨id, -, hr⟩
      · exact hinitial r hr
      · exact h.gone id r hr

end Retired

end Contexts

end PgVitals

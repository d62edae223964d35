import PgVitals.Proofs.Cancellation.Usage

/-!
# Hooks run once

What a call does that cancels a context or registers a hook: which contexts it cancels and which
registrations run is told by what is reached before the call.  However contexts were used before,
and in whatever orders hooks ran, every call returns and each registration runs once at most; other
orders would have led to the same contexts and the same registrations run.
-/

namespace PgVitals

/-! ## What a call does -/

namespace Contexts

/-- What a call does that runs the registrations `initial` and cancels the target: exactly the
contexts reached are cancelled, and exactly the registrations that began and those of the contexts
reached run, each once. -/
structure Sweeps (cs : Contexts) (target : Option ContextId) (initial ran : List Registration)
    (cs' : Contexts) : Prop where
  ended_iff : ∀ id, (cs'.cause? id).isSome = true ↔
    (cs.cause? id).isSome = true ∨ cs.Reaches target id
  cause_of_reaches : ∀ id, cs.Reaches target id → cs'.cause? id = some .cancelled
  cause_of_ended : ∀ id, (cs.cause? id).isSome = true → cs'.cause? id = cs.cause? id
  registrations_eq : ∀ id, cs'.registrationsOf id = cs.registrationsOf id
  mem_ran_iff : ∀ r, r ∈ ran ↔
    r ∈ initial ∨ ∃ id, cs.Reaches target id ∧ r ∈ cs.registrationsOf id
  once : (ran.map Registration.number).Nodup
  runs_eq : cs'.runs = cs.runs ++ ran.map fun r => r.hook.name

theorem Tallied.sweeps {cs cs' : Contexts} {target : Option ContextId}
    {before initial ran : List Registration} {ended : List ContextId} (h : cs.Tallied before)
    (hinitial : cs.Overdue before initial) (hspreads : cs.Spreads target initial ended ran cs') :
    cs.Sweeps target initial ran cs' where
  ended_iff id := by
    by_cases hreaches : cs.Reaches target id
    · simp [hspreads.cause?_of_reaches hreaches, hreaches]
    · simp [hspreads.cause?_of_not_reaches hreaches, hreaches]
  cause_of_reaches id := hspreads.cause?_of_reaches
  cause_of_ended id hended := by
    obtain ⟨cause, hcause⟩ := Option.isSome_iff_exists.1 hended
    rw [hcause]
    exact hspreads.cause?_of_ended hcause
  registrations_eq := hspreads.registrationsOf_eq
  mem_ran_iff r := hspreads.mem_ran_iff
  once := h.nodup_of_spreads hinitial hspreads
  runs_eq := by
    rw [hspreads.contexts_eq]
    rfl

end Contexts

namespace Usage

open Contexts

variable {acts : List Act} {start u u' : Usage}

theorem Sound.sweeps_of_cancel (h : u.Sound) {handle : Nat} {id : ContextId}
    (hid : u.Holds handle id) (hdoes : u.Does (.cancel handle) u') :
    ∃ ran, u'.ran = u.ran ++ ran ∧ u.contexts.Sweeps (some id) [] ran u'.contexts := by
  cases hdoes with
  | cancel hid' hcancels =>
    obtain rfl := (Alike.refl u).holds_eq hid hid'
    obtain ⟨ended, hspreads⟩ := hcancels.spreads
    exact ⟨_, rfl, h.tallied.sweeps (overdue_nil _ _) hspreads⟩

theorem Sound.sweeps_of_register (h : u.Sound) {handle : Nat} {id : ContextId} {hook : Hook}
    (hid : u.Holds handle id) (hdoes : u.Does (.register handle hook) u') :
    match u.contexts.cause? id with
    | none => u'.ran = u.ran ∧ u'.contexts = u.contexts.enlisted id hook
    | some _ => ∃ ran, u'.ran = u.ran ++ ran ∧
        (u.contexts.enlisted id hook).Sweeps hook.cancels [u.contexts.nextRegistration hook] ran
          u'.contexts := by
  cases hdoes with
  | register hid' hregisters =>
    obtain rfl := (Alike.refl u).holds_eq hid hid'
    have hlt := h.lt_of_holds hid
    cases hcause : u.contexts.cause? id with
    | none =>
      obtain ⟨rfl, rfl⟩ := hregisters.eq_of_waiting hcause
      exact ⟨List.append_nil _, rfl⟩
    -- The context has ended, so the new registration is overdue and its cascade starts at once.
    | some cause =>
      obtain ⟨ended, hspreads⟩ := hregisters.spreads_of_ended hcause
      exact ⟨_, rfl, (h.tallied.enlisted hlt hook).sweeps
        (h.tallied.overdue_enlisted hlt hcause hook) hspreads⟩

/-- A registration taken back while its context was open never runs. -/
theorem Sound.ne_of_unregister (h : u.Sound) {id : ContextId}
    (hopen : u.contexts.isOpenAt id = true) {r : Registration}
    (hr : r ∈ u.contexts.registrationsOf id)
    (hcourse : Course (.unregister id r.number :: acts) u u') :
    ∀ r' ∈ u'.ran, r'.number ≠ r.number := by
  cases hcourse with
  | cons hdoes more =>
    have hsound := h.does hdoes
    cases hdoes
    have hretired := h.tallied.retired hopen hr
    exact (more.keeps (P := fun v => v.Sound ∧ v.contexts.Retired v.ran r.number)
      (fun h hdoes => ⟨h.1.does hdoes, retired_does h hdoes⟩) ⟨hsound, hretired⟩).2.unran

/-- Whoever asks a context that has ended is told the same for ever. -/
theorem Sound.check_eq (h : u.Sound) {id : ContextId} {fault : Fault}
    (hfault : (Contexts.check id u.contexts).1 = .failed fault) (hcourse : Course acts u u') :
    (fault = .cancelled ∨ fault = .deadlineExceeded) ∧
      Contexts.check id u'.contexts = (.failed fault, u'.contexts) := by
  rw [h.undated.check_eq] at hfault
  cases hcause : u.contexts.cause? id with
  | none =>
    rw [hcause] at hfault
    cases hfault
  | some cause =>
    rw [hcause] at hfault
    obtain rfl : cause.fault = fault := Outcome.failed.inj hfault
    have hkept : u'.contexts.cause? id = some cause :=
      hcourse.keeps (P := fun v => v.contexts.cause? id = some cause) cause?_does hcause
    refine ⟨?_, ?_⟩
    · cases cause with
      | cancelled => exact Or.inl rfl
      | deadline => exact Or.inr rfl
    · rw [(h.course hcourse).undated.check_eq, hkept]

/-- **Hooks run once, in any order to the same effect.**  However contexts have been used, and in
whatever orders hooks have run: no cascade goes on for ever or stops before its end, so every call
returns, and the calls of the contexts are among its ways.  A call that cancels a context cancels
exactly what is reached from it, and runs exactly the registrations of the contexts that it cancels,
each once.  A hook registered on a context that has ended runs at once, and no registration runs a
second time.  One taken back while its context was open never runs.  Other orders leave the same
contexts and the same registrations run.  A context that tells a fault tells it for ever, through
whichever handle. -/
theorem hooks_run_once (hstart : start.Sound) (hcourse : Course acts start u) :
    (WellFounded fun c' c : Cascade => c.Advance c') ∧
    (∀ c : Cascade, c.pending ≠ [] → ∃ c', c.Advance c') ∧
    (∀ handle id, u.Holds handle id →
      (∃ ran, u.Does (.cancel handle) ⟨u.contexts.cancel id, u.handles, u.ran ++ ran⟩) ∧
      ∀ u', u.Does (.cancel handle) u' →
        ∃ ran, u'.ran = u.ran ++ ran ∧ u.contexts.Sweeps (some id) [] ran u'.contexts) ∧
    (∀ handle id hook, u.Holds handle id →
      (∃ ran, u.Does (.register handle hook)
        ⟨(u.contexts.register id hook).2, u.handles, u.ran ++ ran⟩) ∧
      ∀ u', u.Does (.register handle hook) u' →
        match u.contexts.cause? id with
        | none => u'.ran = u.ran ∧ u'.contexts = u.contexts.enlisted id hook
        | some _ => ∃ ran, u'.ran = u.ran ++ ran ∧
            (u.contexts.enlisted id hook).Sweeps hook.cancels
              [u.contexts.nextRegistration hook] ran u'.contexts) ∧
    (u.ran.map Registration.number).Nodup ∧
    (∀ id, u.contexts.isOpenAt id = true → ∀ r ∈ u.contexts.registrationsOf id,
      ∀ later u', Course (.unregister id r.number :: later) u u' →
        ∀ r' ∈ u'.ran, r'.number ≠ r.number) ∧
    (∀ v, Course acts start v → u.Alike v) ∧
    ∀ id fault, (Contexts.check id u.contexts).1 = .failed fault →
      ∀ later u', Course later u u' →
        (fault = .cancelled ∨ fault = .deadlineExceeded) ∧
          Contexts.check id u'.contexts = (.failed fault, u'.contexts) := by
  have hsound := hstart.course hcourse
  refine ⟨Cascade.wellFounded_advance, fun c => Cascade.exists_advance,
    fun handle id hid => ⟨?_, ?_⟩,
    fun handle id hook hid => ⟨?_, ?_⟩, hsound.tallied.once, ?_, ?_, ?_⟩
  · obtain ⟨ran, hcancels⟩ := u.contexts.cancels_cancel id
    exact ⟨ran, .cancel hid hcancels⟩
  · exact fun u' hdoes => hsound.sweeps_of_cancel hid hdoes
  · obtain ⟨ran, hregisters⟩ := u.contexts.registers_register id hook
    exact ⟨ran, .register hid hregisters⟩
  · exact fun u' hdoes => hsound.sweeps_of_register hid hdoes
  · exact fun id hopen r hr later u' => hsound.ne_of_unregister hopen hr
  · exact fun v => (Alike.refl start).course hcourse
  · exact fun id fault hfault later u' => hsound.check_eq hfault

/-- Two contexts whose hooks cancel each other, and one of them itself too, are both cancelled
through a copy of a handle, and each of the three hooks runs once. -/
theorem hooks_run_once_cycle :
    let a : Registration := ⟨0, "a", some 1⟩
    let b : Registration := ⟨1, "b", some 0⟩
    let c : Registration := ⟨2, "c", some 1⟩
    ∃ u u', Course [.make none, .make none, .register 0 a.hook, .register 1 b.hook,
        .register 1 c.hook, .clone 0, .drop 0] ⟨.startingAt 0, [], []⟩ u ∧
      u.Does (.cancel 2) u' ∧
      u'.contexts.cause? 0 = some .cancelled ∧ u'.contexts.cause? 1 = some .cancelled ∧
      (u'.ran.map Registration.number).Nodup ∧ a ∈ u'.ran ∧ b ∈ u'.ran ∧ c ∈ u'.ran := by
  intro a b c
  let u : Usage :=
    ⟨⟨0, [⟨none, none, [a]⟩, ⟨none, none, [b, c]⟩], 3, []⟩, [none, some 1, some 0], []⟩
  have hcourse : Course [.make none, .make none, .register 0 a.hook, .register 1 b.hook,
      .register 1 c.hook, .clone 0, .drop 0] ⟨.startingAt 0, [], []⟩ u :=
    .cons (.make none) (.cons (.make none) (.cons (.register rfl (.waiting rfl))
      (.cons (.register rfl (.waiting rfl)) (.cons (.register rfl (.waiting rfl))
        (.cons (.clone rfl) (.cons (.drop rfl) (.nil u)))))))
  obtain ⟨-, -, hcancel, -⟩ := hooks_run_once (sound_startingAt 0) hcourse
  obtain ⟨⟨ran, hdoes⟩, hsweeps⟩ := hcancel 2 0 rfl
  obtain ⟨ran', hran, hsweeps⟩ := hsweeps _ hdoes
  obtain rfl : ran = ran' := hran
  have hfirst : u.contexts.Reaches (some 0) 0 := .target rfl rfl
  have hsecond : u.contexts.Reaches (some 0) 1 := hfirst.link (List.mem_singleton_self a) rfl rfl
  -- Which hooks ran is told by what is reached, not by following the cascade.
  have hmem : ∀ r id, u.contexts.Reaches (some 0) id → r ∈ u.contexts.registrationsOf id →
      r ∈ ran :=
    fun r id hid hr => (hsweeps.mem_ran_iff r).2 (Or.inr ⟨id, hid, hr⟩)
  exact ⟨u, _, hcourse, hdoes, hsweeps.cause_of_reaches 0 hfirst,
    hsweeps.cause_of_reaches 1 hsecond, hsweeps.once, hmem a 0 hfirst (List.mem_singleton_self a),
    hmem b 1 hsecond (List.mem_cons_self), hmem c 1 hsecond (List.mem_cons_of_mem b
      (List.mem_singleton_self c))⟩

end Usage

end PgVitals

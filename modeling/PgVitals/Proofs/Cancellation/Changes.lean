import PgVitals.Proofs.Cancellation.Links

/-!
# Changing contexts

What making a context, registering a hook and taking a registration back leave as it was.  Where no
deadline is pending none comes to be, and asking a context whether it has ended changes nothing.
-/

namespace PgVitals

namespace Contexts

variable {cs : Contexts} {id : ContextId}

/-! ## Changes -/

/-- A context that is open, or one that has ended already. -/
def made (cs : Contexts) : Option Cause → ContextId × Contexts
  | none => cs.background
  | some .cancelled => cs.alreadyCancelled
  | some .deadline => cs.alreadyExpired

/-- The registration made by the next call. -/
def nextRegistration (cs : Contexts) (hook : Hook) : Registration := ⟨cs.registered, hook⟩

/-- The contexts with a hook registered on one of them. -/
def enlisted (cs : Contexts) (id : ContextId) (hook : Hook) : Contexts :=
  { cs.modify id fun c =>
      { c with registrations := c.registrations ++ [cs.nextRegistration hook] } with
    registered := cs.registered + 1 }

theorem context?_modify (cs : Contexts) (id : ContextId) (f : Context → Context)
    (other : ContextId) :
    (cs.modify id f).context? other =
      (cs.context? other).map fun c => if id = other then f c else c := by
  rw [modify, context?, context?, List.getElem?_modify]
  rfl

theorem cause?_modify {f : Context → Context} (hf : ∀ c, (f c).cause = c.cause)
    (other : ContextId) : (cs.modify id f).cause? other = cs.cause? other := by
  rw [cause?, cause?, context?_modify]
  cases cs.context? other with
  | none => rfl
  | some c => by_cases h : id = other <;> simp [h, hf]

theorem isOpenAt_modify {f : Context → Context} (hf : ∀ c, (f c).cause = c.cause)
    (other : ContextId) : (cs.modify id f).isOpenAt other = cs.isOpenAt other := by
  rw [isOpenAt, isOpenAt, context?_modify]
  cases cs.context? other with
  | none => rfl
  | some c => by_cases h : id = other <;> simp [h, Context.isOpen, hf]

theorem cause?_enlisted (hook : Hook) (other : ContextId) :
    (cs.enlisted id hook).cause? other = cs.cause? other := by
  change (cs.modify id fun c =>
    { c with registrations := c.registrations ++ [cs.nextRegistration hook] }).cause? other = _
  refine cause?_modify ?_ other
  intro c
  rfl

theorem isOpenAt_enlisted (hook : Hook) (other : ContextId) :
    (cs.enlisted id hook).isOpenAt other = cs.isOpenAt other := by
  change (cs.modify id fun c =>
    { c with registrations := c.registrations ++ [cs.nextRegistration hook] }).isOpenAt other = _
  refine isOpenAt_modify ?_ other
  intro c
  rfl

theorem registrationsOf_enlisted (h : id < cs.all.length) (hook : Hook) (other : ContextId) :
    (cs.enlisted id hook).registrationsOf other =
      cs.registrationsOf other ++ if id = other then [cs.nextRegistration hook] else [] := by
  have hcontext : (cs.enlisted id hook).context? other = (cs.modify id fun c =>
      { c with registrations := c.registrations ++ [cs.nextRegistration hook] }).context? other :=
    rfl
  rw [registrationsOf, registrationsOf, hcontext, context?_modify]
  by_cases hother : id = other
  · subst hother
    rw [context?, List.getElem?_eq_getElem h]
    simp
  · simp [hother]

theorem mem_registrationsOf_enlisted (h : id < cs.all.length) {hook : Hook} {other : ContextId}
    {r : Registration} : r ∈ (cs.enlisted id hook).registrationsOf other ↔
      r ∈ cs.registrationsOf other ∨ id = other ∧ r = cs.nextRegistration hook := by
  rw [registrationsOf_enlisted h, List.mem_append]
  by_cases hother : id = other <;> simp [hother]

theorem registrationsOf_unregister (number : Nat) (other : ContextId) :
    (cs.unregister id number).registrationsOf other =
      if id = other then (cs.registrationsOf other).filter (·.number ≠ number)
      else cs.registrationsOf other := by
  rw [unregister, registrationsOf, registrationsOf, context?_modify]
  cases cs.context? other with
  | none => by_cases h : id = other <;> simp [h]
  | some c => by_cases h : id = other <;> simp [h]

theorem mem_registrationsOf_unregister {number : Nat} {other : ContextId} {r : Registration}
    (h : r ∈ (cs.unregister id number).registrationsOf other) : r ∈ cs.registrationsOf other := by
  rw [registrationsOf_unregister] at h
  by_cases hother : id = other
  · rw [if_pos hother] at h
    exact (List.mem_filter.1 h).1
  · rwa [if_neg hother] at h

theorem context?_add_of_lt (c : Context) (h : id < cs.all.length) :
    (cs.add c).2.context? id = cs.context? id := List.getElem?_append_left h

theorem context?_add_self (c : Context) : (cs.add c).2.context? cs.all.length = some c := by
  rw [add, context?, List.getElem?_append_right (Nat.le_refl _), Nat.sub_self]
  rfl

theorem context?_add_cases {c c' : Context} (h : (cs.add c).2.context? id = some c') :
    cs.context? id = some c' ∨ id = cs.all.length ∧ c' = c := by
  by_cases hid : id < cs.all.length
  · rw [context?_add_of_lt c hid] at h
    exact Or.inl h
  · have hlt := (List.getElem?_eq_some_iff.1 h).1
    rw [add, List.length_append, List.length_singleton] at hlt
    obtain rfl : id = cs.all.length :=
      Nat.le_antisymm (Nat.lt_succ_iff.1 hlt) (Nat.le_of_not_lt hid)
    rw [context?_add_self] at h
    exact Or.inr ⟨rfl, (Option.some.inj h).symm⟩

theorem cause?_add_of_ended (c : Context) {cause : Cause} (h : cs.cause? id = some cause) :
    (cs.add c).2.cause? id = some cause := by
  obtain ⟨old, hold, -⟩ := Option.bind_eq_some_iff.1 h
  rwa [cause?, context?_add_of_lt c (List.getElem?_eq_some_iff.1 hold).1]

theorem registrationsOf_add {c : Context} (hc : c.registrations = []) (id : ContextId) :
    (cs.add c).2.registrationsOf id = cs.registrationsOf id := by
  rw [registrationsOf, registrationsOf]
  cases h : (cs.add c).2.context? id with
  | none =>
    have hnone : cs.context? id = none := by
      have hlength : cs.all.length + 1 ≤ id := by
        rw [context?, List.getElem?_eq_none_iff, add, List.length_append] at h
        exact h
      exact List.getElem?_eq_none_iff.2 (Nat.le_of_succ_le hlength)
    rw [hnone]
  | some c' =>
    obtain hold | ⟨rfl, rfl⟩ := context?_add_cases h
    · rw [hold]
    · rw [context?, List.getElem?_eq_none_iff.2 (Nat.le_refl _), Option.map_some, hc]
      rfl

/-! ## Contexts without pending deadlines -/

/-- No context that is open has a deadline. -/
def Undated (cs : Contexts) : Prop :=
  ∀ id c, cs.context? id = some c → c.isOpen = true → c.deadline = none

theorem made_eq_add (cs : Contexts) (ending : Option Cause) :
    ∃ c, cs.made ending = cs.add c ∧ c.registrations = [] ∧
      (c.isOpen = true → c.deadline = none) := by
  rcases ending with _ | _ | _
  · exact ⟨_, rfl, rfl, fun _ => rfl⟩
  · exact ⟨_, rfl, rfl, fun _ => rfl⟩
  · refine ⟨_, rfl, rfl, fun h => ?_⟩
    cases h

namespace Undated

theorem made (h : cs.Undated) (ending : Option Cause) : (cs.made ending).2.Undated := by
  obtain ⟨c, hmade, -, hc⟩ := cs.made_eq_add ending
  rw [hmade]
  intro id c' hc' hopen
  obtain hold | ⟨-, rfl⟩ := context?_add_cases hc'
  · exact h id c' hold hopen
  · exact hc hopen

theorem modify (h : cs.Undated) {f : Context → Context} (hcause : ∀ c, (f c).cause = c.cause)
    (hdeadline : ∀ c, (f c).deadline = c.deadline) (id : ContextId) : (cs.modify id f).Undated := by
  intro other c hc hopen
  rw [context?_modify, Option.map_eq_some_iff] at hc
  obtain ⟨c, hc, rfl⟩ := hc
  by_cases hother : id = other
  · rw [if_pos hother] at hopen ⊢
    rw [Context.isOpen, hcause] at hopen
    rw [hdeadline]
    exact h other c hc hopen
  · rw [if_neg hother] at hopen ⊢
    exact h other c hc hopen

theorem enlisted (h : cs.Undated) (id : ContextId) (hook : Hook) :
    (cs.enlisted id hook).Undated := by
  refine h.modify ?_ ?_ id
  · intro c
    rfl
  · intro c
    rfl

theorem unregister (h : cs.Undated) (id : ContextId) (number : Nat) :
    (cs.unregister id number).Undated := by
  refine h.modify ?_ ?_ id
  · intro c
    rfl
  · intro c
    rfl

theorem after (h : cs.Undated) (ended : List ContextId) (ran : List Registration) :
    (cs.after ended ran).Undated := by
  intro id c hc hopen
  rw [context?_after, Option.map_eq_some_iff] at hc
  obtain ⟨c, hc, rfl⟩ := hc
  by_cases hid : id ∈ ended
  · rw [if_pos hid] at hopen
    cases hopen
  · rw [if_neg hid] at hopen ⊢
    exact h id c hc hopen

theorem notice_eq (h : cs.Undated) (id : ContextId) : cs.notice id = cs := by
  rw [notice]
  cases hcontext : cs.context? id with
  | none => rfl
  | some c =>
    cases hdeadline : c.deadline with
    | none => simp only [Option.bind_some, hdeadline]
    | some deadline =>
      have hclosed : cs.isOpenAt id = false := by
        rw [isOpenAt, hcontext]
        cases hopen : c.isOpen with
        | false => exact hopen
        | true =>
          rw [h id c hcontext hopen] at hdeadline
          cases hdeadline
      simp only [Option.bind_some, hdeadline, conclude, end?_of_not_isOpenAt hclosed, ite_self]

/-- Asking a context tells the cause of its end and changes nothing. -/
theorem check_eq (h : cs.Undated) (id : ContextId) :
    Contexts.check id cs =
      (match cs.cause? id with
        | none => .done ()
        | some cause => .failed cause.fault, cs) := by
  simp only [check, isCancelled, h.notice_eq, cancellationFault]
  cases cs.cause? id with
  | none => rfl
  | some cause => rfl

end Undated

end Contexts

end PgVitals

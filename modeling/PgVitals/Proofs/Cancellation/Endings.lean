import PgVitals.Proofs.Cancellation.Links

/-!
# Whether a context has ended, for whoever asks

A deadline that has passed ends its context for everybody who asks, also when nobody noticed before.
Once a context has ended it stays ended with the cause it has, and the two ways to ask, the check
before a call and the wait of a statement, answer with the fault of that cause.
-/

namespace PgVitals

theorem Cause.isCancellation_fault (k : Cause) : k.fault.isCancellation = true := by
  cases k <;> rfl

namespace Contexts

variable {cs : Contexts} {id : ContextId} {k : Cause}

/-- Why a context has ended, if it has; a deadline that has passed counts. -/
def ending? (cs : Contexts) (id : ContextId) : Option Cause := (cs.notice id).cause? id

theorem notice_of_ended (h : cs.cause? id = some k) : cs.notice id = cs := by
  have hclosed : cs.isOpenAt id = false := isOpenAt_of_cause? h
  unfold notice
  split
  · split
    · rw [conclude, end?_of_not_isOpenAt hclosed]
    · rfl
  · rfl

/-- A context that has ended has ended for whoever asks. -/
theorem ending?_of_cause? (h : cs.cause? id = some k) : cs.ending? id = some k := by
  rw [ending?, notice_of_ended h, h]

/-- Asking again gives the same answer. -/
theorem ending?_notice (h : cs.ending? id = some k) : (cs.notice id).ending? id = some k :=
  ending?_of_cause? h

/-! ## Deadlines -/

/-- Hooks that run do not change why a context has ended. -/
theorem cause?_settle (hooks : List Hook) (h : cs.cause? id = some k) :
    (settle hooks cs).cause? id = some k := by
  fun_induction settle hooks cs with
  | case1 cs => exact h
  | case2 cs hook rest hlink ih => exact ih ((cause?_congr rfl id).trans h)
  | case3 cs hook rest other hlink hend ih => exact ih ((cause?_congr rfl id).trans h)
  -- The context that the hook ends was open, so it is not the one with a cause.
  | case4 cs hook rest other hlink hooks cs' hend hlt ih =>
    have hcount : (cs.count hook).cause? id = some k := (cause?_congr rfl id).trans h
    obtain ⟨hopen, -, rfl⟩ := of_end?_eq_some hend
    have hid : id ∉ [other] := by
      rw [List.mem_singleton]
      rintro rfl
      rw [isOpenAt_of_cause? hcount] at hopen
      cases hopen
    exact ih (by rw [cause?_after_of_not_mem hid, hcount])

/-- A context that has not ended for whoever asks is ahead of its deadline. -/
theorem now_lt_of_open (h : cs.ending? id = none) {deadline : Nat}
    (hdeadline : (cs.context? id).bind (·.deadline) = some deadline) : cs.now < deadline := by
  refine Nat.lt_of_not_le fun hpassed => ?_
  cases hcause : cs.cause? id with
  | some k =>
    rw [ending?_of_cause? hcause] at h
    cases h
  | none =>
    obtain ⟨c, hc, -⟩ := Option.bind_eq_some_iff.1 hdeadline
    have hget : cs.all[id]? = some c := hc
    have hopen : c.isOpen = true := by
      rw [cause?, hc] at hcause
      rw [Context.isOpen, Option.isNone_iff_eq_none]
      exact hcause
    have hended : (cs.conclude id .deadline).cause? id = some .deadline := by
      simp only [conclude, end?, hget, hopen, if_true]
      apply cause?_settle
      rw [cause?, context?, List.getElem?_set_self', hget]
      rfl
    have hending : cs.ending? id = some .deadline := by
      simp only [ending?, notice, hdeadline, if_pos hpassed, hended]
    rw [hending] at h
    cases h

theorem notice_of_open (h : cs.ending? id = none) : cs.notice id = cs := by
  unfold notice
  split
  · rename_i deadline hdeadline
    rw [if_neg (Nat.not_le.2 (now_lt_of_open h hdeadline))]
  · rfl

/-- A context that has not ended has time left, if its time is bounded. -/
theorem remaining?_of_open (h : cs.ending? id = none) : cs.remaining? id ≠ some 0 := by
  intro hremaining
  obtain ⟨deadline, hdeadline, hleft⟩ := Option.map_eq_some_iff.1 hremaining
  have hlt := now_lt_of_open h hdeadline
  omega

/-! ## Asking -/

theorem check_of_ended (h : cs.ending? id = some k) :
    check id cs = (.failed k.fault, cs.notice id) := by
  have hcause : (cs.notice id).cause? id = some k := h
  simp only [check, isCancelled, cancellationFault, hcause, Option.isSome_some, if_true,
    Option.getD_some]

theorem check_of_open (h : cs.ending? id = none) : check id cs = (.done (), cs.notice id) := by
  have hcause : (cs.notice id).cause? id = none := h
  simp only [check, isCancelled, hcause, Option.isSome_none, Bool.false_eq_true, if_false]

/-- A check that fails tells why the context has ended. -/
theorem check_failed {fault : Fault} (h : (check id cs).1 = .failed fault) :
    ∃ k, cs.ending? id = some k ∧ fault = k.fault := by
  cases hending : cs.ending? id with
  | none =>
    rw [check_of_open hending] at h
    cases h
  | some k =>
    rw [check_of_ended hending] at h
    exact ⟨k, rfl, (Outcome.failed.inj h).symm⟩

/-- A statement that waits for the end of its context fails, and when it tells of that end the
context has ended so. -/
theorem await_told {α : Type} {fault : Fault}
    (h : (await id cs : Outcome α × Contexts).1 = .failed fault)
    (hfault : fault.isCancellation = true) :
    ∃ k, (await id cs : Outcome α × Contexts).2.ending? id = some k ∧ fault = k.fault := by
  unfold await at h ⊢
  generalize (if (cs.cause? id).isSome then cs
    else passUntil id (cs.now + patience) (cs.due (cs.now + patience)) cs) = waited at h ⊢
  cases hcause : waited.cause? id with
  | none =>
    simp only [hcause, Option.isSome_none, Bool.false_eq_true, if_false] at h
    obtain rfl : .queryFailed "statement was never cancelled" = fault := Outcome.failed.inj h
    cases hfault
  | some k =>
    simp only [hcause, Option.isSome_some, if_true, cancellationFault, Option.getD_some] at h ⊢
    exact ⟨k, ending?_of_cause? hcause, (Outcome.failed.inj h).symm⟩

end Contexts

end PgVitals

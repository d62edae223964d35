import PgVitals.Proofs.Server.Attentive
import PgVitals.Proofs.Server.Audit

/-!
# The trail of calls

A run leads from scene to scene by calls to the connector and by nothing else: its trail.  A trail
can be cut behind any call, and the scene at the cut tells whether the context had ended by then.
If it had, an attentive connector refuses every attempt to connect and every statement behind the
cut, so what the server has logged at the cut is all that it ever logs.

`Told` says what a caller must make of the calls: go on until one of them tells that the context has
ended, then only close what is open, and pass on the fault that was told.
-/

namespace PgVitals

variable {σ τ ρ α : Type} {c : Connector σ τ} {ctx : ContextId} {log : σ → ρ}

/-! ## Calls -/

namespace Event

/-- Whether the call is an attempt to connect or a statement, and no closing. -/
def isTraffic : Event → Bool
  | connect _ _ | query _ _ _ => true
  | close _ _ => false

/-- The attempt to connect, or the statement, failed with the fault. -/
def Tells (fault : Fault) : Event → Prop
  | connect _ ending => ending = .failed fault
  | query _ _ ending => ending = .failed fault
  | close _ _ => False

theorem isCancelled_of_not_isTraffic {e : Event} (h : e.isTraffic = false) :
    e.isCancelled = false := by
  cases e with
  | connect descriptor ending => cases h
  | query origin sql ending => cases h
  | close origin ending => rfl

theorem exists_tells_of_isCancelled {e : Event} (h : e.isCancelled = true) :
    ∃ fault, e.Tells fault ∧ fault.isCancellation = true := by
  cases e with
  | connect descriptor ending =>
    obtain value | fault | note := ending
    · cases h
    · exact ⟨fault, rfl, h⟩
    · cases h
  | query origin sql ending =>
    obtain rows | fault | note := ending
    · cases h
    · exact ⟨fault, rfl, h⟩
    · cases h
  | close origin ending => cases h

end Event

theorem cancels_of_not_isTraffic {events : List Event} (h : ∀ e ∈ events, e.isTraffic = false) :
    cancels events = false := by
  rw [cancels, List.any_eq_false]
  intro e he
  rw [Event.isCancelled_of_not_isTraffic (h e he)]
  exact Bool.false_ne_true

/-- One call under a context to a connector under audit, from the scene before it to the one after
it. -/
inductive Contact (c : Connector σ τ) (ctx : ContextId) :
    Scene (Audited σ) → Event → Scene (Audited σ) → Prop where
  | connect (descriptor : String) (s : Scene (Audited σ)) :
    Contact c ctx s (.connect descriptor ((c.audited.connect ctx descriptor s).1.map fun _ => ()))
      (c.audited.connect ctx descriptor s).2
  | query (traced : Traced τ) (sql : String) (s : Scene (Audited σ)) :
    Contact c ctx s (.query traced.origin sql (c.audited.query traced ctx sql s).1)
      (c.audited.query traced ctx sql s).2
  | close (traced : Traced τ) (s : Scene (Audited σ)) :
    Contact c ctx s (.close traced.origin (c.audited.close traced s).1) (c.audited.close traced s).2

namespace Contact

variable {s after : Scene (Audited σ)} {e : Event}

theorem record_eq (h : Contact c ctx s e after) :
    after.server.record = s.server.record ++ [e] := by
  cases h with
  | connect descriptor =>
    obtain ⟨ending, after, hrun, -, hrecord⟩ := c.audited_connect s ctx descriptor
    rw [hrun]
    exact hrecord
  | query traced sql => rfl
  | close traced => rfl

/-- Once the context has ended, a call leaves it ended and logs nothing, and it is refused unless it
closes a session. -/
theorem of_ended (hc : c.Attentive ctx log) (h : Contact c ctx s e after) {k : Cause}
    (hk : s.contexts.ending? ctx = some k) :
    after.contexts.ending? ctx = some k ∧ log after.server.server = log s.server.server ∧
      (e.isTraffic = true → e.Tells k.fault) := by
  cases h with
  | connect descriptor =>
    obtain ⟨houtcome, hending, hlog⟩ := hc.connect_refused (s := s.plain) hk descriptor
    refine ⟨hending, hlog, fun _ => ?_⟩
    change ((c.connect ctx descriptor s.plain).1.map _).map _ = .failed k.fault
    rw [houtcome]
    rfl
  | query traced sql =>
    obtain ⟨houtcome, hending, hlog⟩ := hc.query_refused (s := s.plain) hk traced.session sql
    exact ⟨hending, hlog, fun _ => houtcome⟩
  | close traced =>
    refine ⟨?_, hc.close_log traced.session s.plain, fun htraffic => ?_⟩
    · change (c.close traced.session s.plain).2.contexts.ending? ctx = some k
      rw [hc.close_contexts]
      exact hk
    · cases htraffic

/-- A call that tells of the end of the context leaves it ended. -/
theorem of_told (hc : c.Attentive ctx log) (h : Contact c ctx s e after) {fault : Fault}
    (htold : e.Tells fault) (hfault : fault.isCancellation = true) :
    ∃ k, after.contexts.ending? ctx = some k ∧ fault = k.fault := by
  cases h with
  | connect descriptor =>
    refine hc.connect_truthful descriptor s.plain fault ?_ hfault
    change ((c.connect ctx descriptor s.plain).1.map _).map _ = .failed fault at htold
    -- The record keeps only how the attempt ended, without the session that it opened.
    cases hrun : (c.connect ctx descriptor s.plain).1 with
    | done session =>
      rw [hrun] at htold
      cases htold
    | failed other =>
      rw [hrun] at htold
      exact congrArg Outcome.failed (Outcome.failed.inj htold)
    | crashed note =>
      rw [hrun] at htold
      cases htold
  | query traced sql => exact hc.query_truthful traced.session sql s.plain fault htold hfault
  | close traced => cases htold

end Contact

/-! ## Trails -/

/-- Calls one after the other, each from the scene that the one before left. -/
inductive Trail (c : Connector σ τ) (ctx : ContextId) :
    Scene (Audited σ) → List Event → Scene (Audited σ) → Prop where
  | nil (s : Scene (Audited σ)) : Trail c ctx s [] s
  | cons {s mid last : Scene (Audited σ)} {e : Event} {events : List Event}
    (call : Contact c ctx s e mid) (more : Trail c ctx mid events last) :
    Trail c ctx s (e :: events) last

namespace Trail

variable {s mid last : Scene (Audited σ)} {e : Event} {events more : List Event}

theorem single (h : Contact c ctx s e last) : Trail c ctx s [e] last := .cons h (.nil last)

theorem append (h : Trail c ctx s events mid) (h' : Trail c ctx mid more last) :
    Trail c ctx s (events ++ more) last := by
  induction h with
  | nil s => exact h'
  | cons call _ ih => exact .cons call (ih h')

/-- A trail can be cut behind any call. -/
theorem cut (h : Trail c ctx s (events ++ more) last) :
    ∃ mid, Trail c ctx s events mid ∧ Trail c ctx mid more last := by
  -- The induction is on the calls before the cut; those behind it stay as they are.
  induction events generalizing s with
  | nil => exact ⟨s, .nil s, h⟩
  | cons e events ih =>
    cases h with
    | cons call rest =>
      obtain ⟨mid, hfront, hback⟩ := ih rest
      exact ⟨mid, .cons call hfront, hback⟩

theorem record_eq (h : Trail c ctx s events last) :
    last.server.record = s.server.record ++ events := by
  induction h with
  | nil s => exact (List.append_nil _).symm
  | cons call _ ih => rw [ih, call.record_eq, List.append_assoc, List.singleton_append]

/-- **Behind the end of its context a trail has no traffic:** every attempt to connect and every
statement is refused, and the server logs nothing more. -/
theorem of_ended (hc : c.Attentive ctx log) (h : Trail c ctx s events last) {k : Cause}
    (hk : s.contexts.ending? ctx = some k) :
    last.contexts.ending? ctx = some k ∧ log last.server.server = log s.server.server ∧
      ∀ e ∈ events, e.isTraffic = true → e.Tells k.fault := by
  induction h with
  | nil s => exact ⟨hk, rfl, fun e he => by cases he⟩
  | cons call _ ih =>
    obtain ⟨hmid, hlog, hfirst⟩ := call.of_ended hc hk
    obtain ⟨hlast, hlogs, hrest⟩ := ih hmid
    exact ⟨hlast, hlogs.trans hlog, List.forall_mem_cons.2 ⟨hfirst, hrest⟩⟩

/-- When a call told of the end of its context, the context has ended. -/
theorem ended_of_cancels (hc : c.Attentive ctx log) (h : Trail c ctx s events last)
    (hcancels : cancels events = true) : ∃ k, last.contexts.ending? ctx = some k := by
  rw [cancels, List.any_eq_true] at hcancels
  obtain ⟨e, he, hcancelled⟩ := hcancels
  obtain ⟨first, rest, rfl⟩ := List.append_of_mem he
  obtain ⟨mid, -, hback⟩ := h.cut
  obtain ⟨fault, htold, hfault⟩ := Event.exists_tells_of_isCancelled hcancelled
  cases hback with
  | cons call more =>
    obtain ⟨k, hk, -⟩ := call.of_told hc htold hfault
    exact ⟨k, (more.of_ended hc hk).1⟩

end Trail

/-- Wherever the calls between two scenes are cut: a call before the cut tells of the end of the
context only if the context has ended at the cut, and if it has, then it stays so, the server logs
nothing more, and every attempt to connect and every statement behind the cut fails with the fault
of the context. -/
def Quiet (c : Connector σ τ) (ctx : ContextId) (log : σ → ρ) (first last : Scene (Audited σ)) :
    Prop :=
  ∀ before behind, last.server.record = first.server.record ++ (before ++ behind) →
    ∃ cut, Trail c ctx first before cut ∧ Trail c ctx cut behind last ∧
      (cancels before = true → ∃ k, cut.contexts.ending? ctx = some k) ∧
      ∀ k, cut.contexts.ending? ctx = some k →
        last.contexts.ending? ctx = some k ∧ log last.server.server = log cut.server.server ∧
          ∀ e ∈ behind, e.isTraffic = true → e.Tells k.fault

theorem Trail.quiet {s last : Scene (Audited σ)} {events : List Event} (hc : c.Attentive ctx log)
    (h : Trail c ctx s events last) : Quiet c ctx log s last := by
  intro before behind hrecord
  rw [h.record_eq, List.append_cancel_left_eq] at hrecord
  subst hrecord
  obtain ⟨cut, hfront, hback⟩ := h.cut
  exact ⟨cut, hfront, hback, hfront.ended_of_cancels hc, fun k hk => hback.of_ended hc hk⟩

/-! ## What the calls told -/

/-- The fault with which an outcome passes on that a context has ended. -/
def Outcome.cancellation? : Outcome α → Option Fault
  | failed fault => if fault.isCancellation then some fault else none
  | _ => none

theorem Outcome.cancellation?_eq_some_iff {outcome : Outcome α} {fault : Fault} :
    outcome.cancellation? = some fault ↔
      outcome = .failed fault ∧ fault.isCancellation = true := by
  cases outcome with
  | done value => simp [cancellation?]
  | crashed note => simp [cancellation?]
  | failed other =>
    simp only [cancellation?, Option.ite_none_right_eq_some, Option.some.injEq, failed.injEq]
    constructor
    · rintro ⟨h, rfl⟩
      exact ⟨rfl, h⟩
    · rintro ⟨rfl, h⟩
      exact ⟨h, rfl⟩

theorem Outcome.isSome_cancellation?_failed {fault : Fault} :
    (failed fault : Outcome α).cancellation?.isSome = fault.isCancellation := by
  cases hfault : fault.isCancellation <;> simp [cancellation?, hfault]

/-- What calls told of the end of a context: nothing, or a fault of that kind, in which case only
closings are behind the call that told it. -/
inductive Told : List Event → Option Fault → Prop where
  | nothing {events : List Event} (h : cancels events = false) : Told events none
  | ending {first last : List Event} {e : Event} {fault : Fault} (hfirst : cancels first = false)
    (he : e.Tells fault) (hfault : fault.isCancellation = true)
    (hlast : ∀ e ∈ last, e.isTraffic = false) : Told (first ++ e :: last) (some fault)

namespace Told

theorem single {e : Event} {fault : Fault} (he : e.Tells fault)
    (hfault : fault.isCancellation = true) : Told [e] (some fault) := by
  rw [← List.nil_append [e]]
  exact .ending rfl he hfault (List.forall_mem_nil _)

variable {events more : List Event} {told : Option Fault}

/-- A caller that was told nothing may go on. -/
theorem append (h : Told events none) (hmore : Told more told) : Told (events ++ more) told := by
  cases h with
  | nothing hevents =>
    cases hmore with
    | nothing hmore => exact .nothing (by rw [cancels_append, hevents, hmore]; rfl)
    | ending hfirst he hfault hlast =>
      rw [← List.append_assoc]
      exact .ending (by rw [cancels_append, hevents, hfirst]; rfl) he hfault hlast

/-- A caller may always close what is open. -/
theorem append_closings (h : Told events told) (hmore : ∀ e ∈ more, e.isTraffic = false) :
    Told (events ++ more) told := by
  cases h with
  | nothing hevents =>
    exact .nothing (by rw [cancels_append, hevents, cancels_of_not_isTraffic hmore]; rfl)
  | ending hfirst he hfault hlast =>
    rw [List.append_assoc, List.cons_append]
    refine .ending hfirst he hfault fun e hmem => ?_
    exact (List.mem_append.1 hmem).elim (hlast e) (hmore e)

end Told

namespace Trail

variable {s last : Scene (Audited σ)} {events : List Event} {told : Option Fault}

/-- The fault that calls told is that of the cause with which the context has ended. -/
theorem cause_of_told (hc : c.Attentive ctx log) (h : Trail c ctx s events last) {fault : Fault}
    (htold : Told events (some fault)) :
    ∃ k, last.contexts.ending? ctx = some k ∧ fault = k.fault := by
  cases htold with
  | ending hfirst he hfault hlast =>
    obtain ⟨mid, -, hback⟩ := h.cut
    cases hback with
    | cons call rest =>
      obtain ⟨k, hk, rfl⟩ := call.of_told hc he hfault
      obtain ⟨hending, -, -⟩ := rest.of_ended hc hk
      exact ⟨k, hending, rfl⟩

end Trail

end PgVitals

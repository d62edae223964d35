import Mathlib.Data.List.Basic
import PgVitals.Proofs.Steps
import PgVitals.Server.Connector
import PgVitals.Target

/-!
# Keeping a record of the calls

Any connector can be put under audit: its calls do what they did, and each leaves an entry in a
record, with the session it went to and how it ended.  Sessions opened under audit are numbered in
the order of their opening; a session held from before, or lent by its owner, comes from outside.
What is said about the record of a run therefore holds of the calls that the run makes, for every
connector.

`Accounts` is the balance of a record: the sessions that it opened are the ones closed, each once,
and those still held.  Each call changes the balance in one way, which is said here once.
-/

namespace PgVitals

/-- Where a session comes from. -/
inductive Origin where
  | opened (number : Nat)
  | outside
deriving DecidableEq, Repr

/-- A call that reached the connector, and how it ended. -/
inductive Event where
  | connect (descriptor : String) (ending : Outcome Unit)
  | query (origin : Origin) (sql : String) (ending : Outcome (List Row))
  | close (origin : Origin) (ending : Outcome Unit)
deriving DecidableEq, Repr

/-- A session and where it comes from. -/
structure Traced (τ : Type) where
  session : τ
  origin : Origin

/-- The state of a server and the record of the calls. -/
structure Audited (σ : Type) where
  server : σ
  record : List Event

variable {σ τ α : Type}

namespace Event

def isOpening : Event → Bool
  | connect _ (.done ()) => true
  | _ => false

def isClosing (origin : Origin) : Event → Bool
  | close other _ => other = origin
  | _ => false

/-- The descriptor of an attempt to connect, successful or not. -/
def attempt? : Event → Option String
  | connect descriptor _ => some descriptor
  | _ => none

/-- Whether an attempt to connect or a statement failed with the fault of a context that ended. -/
def isCancelled : Event → Bool
  | connect _ (.failed fault) | query _ _ (.failed fault) => fault.isCancellation
  | _ => false

def isCrash : Event → Bool
  | connect _ ending => ending.isCrashed
  | query _ _ ending => ending.isCrashed
  | close _ ending => ending.isCrashed

end Event

/-- How many sessions the calls opened. -/
def openings (record : List Event) : Nat := record.countP Event.isOpening

/-- How many times a session was closed. -/
def closings (origin : Origin) (record : List Event) : Nat := record.countP (Event.isClosing origin)

/-- Whether some attempt to connect or some statement told of the end of a context. -/
def cancels (record : List Event) : Bool := record.any Event.isCancelled

/-- Whether some call crashed. -/
def crashes (record : List Event) : Bool := record.any Event.isCrash

theorem cancels_append (record events : List Event) :
    cancels (record ++ events) = (cancels record || cancels events) := List.any_append

theorem crashes_append (record events : List Event) :
    crashes (record ++ events) = (crashes record || crashes events) := List.any_append

/-! ## The connector under audit -/

namespace Scene

/-- The scene without the record. -/
def plain (s : Scene (Audited σ)) : Scene σ := ⟨s.contexts, s.server.server, s.locks⟩

/-- The scene with a record. -/
def withRecord (s : Scene σ) (record : List Event) : Scene (Audited σ) :=
  ⟨s.contexts, ⟨s.server, record⟩, s.locks⟩

@[simp] theorem record_withRecord (s : Scene σ) (record : List Event) :
    (s.withRecord record).server.record = record := rfl

/-- A call with an entry in the record. -/
def recording (call : Step (Scene σ) α) (entry : Outcome α → Event) :
    Step (Scene (Audited σ)) α := fun s =>
  ((call s.plain).1,
    (call s.plain).2.withRecord (s.server.record ++ [entry (call s.plain).1]))

/-- What happens around the server apart from the calls leaves the record as it is. -/
def meanwhile (change : Scene σ → Scene σ) (s : Scene (Audited σ)) : Scene (Audited σ) :=
  (change s.plain).withRecord s.server.record

end Scene

/-- The connector with a record of its calls. -/
def Connector.audited (c : Connector σ τ) : Connector (Audited σ) (Traced τ) where
  connect := fun ctx descriptor s =>
    let (outcome, after) :=
      Scene.recording (c.connect ctx descriptor)
        (fun ending => .connect descriptor (ending.map fun _ => ())) s
    (outcome.map fun session => ⟨session, .opened (openings s.server.record)⟩, after)
  query := fun traced ctx sql =>
    Scene.recording (c.query traced.session ctx sql) (.query traced.origin sql)
  close := fun traced => Scene.recording (c.close traced.session) (.close traced.origin)

namespace Connector

variable (c : Connector σ τ) (s : Scene (Audited σ))

theorem audited_connect (ctx : ContextId) (descriptor : String) :
    ∃ ending after, c.audited.connect ctx descriptor s = (ending, after) ∧
      (∀ traced, ending = .done traced → traced.origin = .opened (openings s.server.record)) ∧
      after.server.record = s.server.record ++ [.connect descriptor (ending.map fun _ => ())] := by
  have haudited : c.audited.connect ctx descriptor s =
      ((c.connect ctx descriptor s.plain).1.map fun session =>
          ⟨session, .opened (openings s.server.record)⟩,
        (c.connect ctx descriptor s.plain).2.withRecord (s.server.record ++
          [.connect descriptor ((c.connect ctx descriptor s.plain).1.map fun _ => ())])) := rfl
  rw [haudited]
  rcases (c.connect ctx descriptor s.plain).1 with session | fault | note
  · refine ⟨_, _, rfl, fun traced htraced => ?_, rfl⟩
    cases htraced
    rfl
  · refine ⟨_, _, rfl, fun traced htraced => ?_, rfl⟩
    cases htraced
  · refine ⟨_, _, rfl, fun traced htraced => ?_, rfl⟩
    cases htraced

theorem audited_query (traced : Traced τ) (ctx : ContextId) (sql : String) :
    ∃ ending after, c.audited.query traced ctx sql s = (ending, after) ∧
      after.server.record = s.server.record ++ [.query traced.origin sql ending] :=
  ⟨_, _, rfl, rfl⟩

theorem audited_close (traced : Traced τ) :
    ∃ ending after, c.audited.close traced s = (ending, after) ∧
      after.server.record = s.server.record ++ [.close traced.origin ending] :=
  ⟨_, _, rfl, rfl⟩

end Connector

/-- A target put under audit; a session that it holds comes from outside. -/
def Target.audited (t : Target σ τ) : Target (Audited σ) (Traced τ) where
  connector := t.connector.audited
  descriptor := t.descriptor
  statementTimeout := t.statementTimeout
  hold := t.hold.map fun
    | .owned session => .owned ⟨session, .outside⟩
    | .lent shared => .lent ⟨⟨shared.session, .outside⟩, shared.lock⟩
  version := t.version

/-- A site put under audit, with nothing in the record. -/
def Site.audited (site : Site σ τ) : Site (Audited σ) (Traced τ) :=
  ⟨site.target.audited, site.scene.withRecord []⟩

/-- The record of the calls around a site. -/
def Site.record (site : Site (Audited σ) (Traced τ)) : List Event := site.scene.server.record

/-! ## The balance of a record -/

/-- The sessions opened were each closed once, save those that are held; none from outside was
closed. -/
structure Accounts (record : List Event) (held : List Nat) : Prop where
  opened : ∀ n, closings (.opened n) record + held.count n = if n < openings record then 1 else 0
  outside : closings .outside record = 0

namespace Accounts

variable {record : List Event} {held : List Nat}

theorem nil : Accounts [] [] := ⟨fun _ => rfl, rfl⟩

theorem openings_append (record events : List Event) :
    openings (record ++ events) = openings record + openings events := List.countP_append

theorem closings_append (origin : Origin) (record events : List Event) :
    closings origin (record ++ events) = closings origin record + closings origin events :=
  List.countP_append

/-- A call that opens and closes nothing. -/
theorem idle {e : Event} (h : Accounts record held) (hopen : e.isOpening = false)
    (hclose : ∀ origin, e.isClosing origin = false) : Accounts (record ++ [e]) held := by
  have hopenings : openings [e] = 0 := by simp [openings, hopen]
  have hclosings : ∀ origin, closings origin [e] = 0 := fun origin => by
    simp [closings, hclose origin]
  refine ⟨fun n => ?_, ?_⟩
  · rw [openings_append, closings_append, hopenings, hclosings, Nat.add_zero, Nat.add_zero]
    exact h.opened n
  · rw [closings_append, hclosings, Nat.add_zero]
    exact h.outside

theorem query (h : Accounts record held) (origin : Origin) (sql : String)
    (ending : Outcome (List Row)) : Accounts (record ++ [.query origin sql ending]) held :=
  h.idle rfl fun _ => rfl

theorem connect_of_not_done {ending : Outcome Unit} (h : Accounts record held)
    (hending : ending.isDone = false) (descriptor : String) :
    Accounts (record ++ [.connect descriptor ending]) held := by
  refine h.idle ?_ fun _ => rfl
  cases ending with
  | done value => simp [Outcome.isDone] at hending
  | failed fault => rfl
  | crashed note => rfl

/-- The session opened is held. -/
theorem connect (h : Accounts record held) (descriptor : String) :
    Accounts (record ++ [.connect descriptor (.done ())]) (openings record :: held) := by
  refine ⟨fun n => ?_, ?_⟩
  · have hn := h.opened n
    rw [openings_append, closings_append]
    change closings (.opened n) record + 0 + _ = if n < openings record + 1 then 1 else 0
    rw [List.count_cons]
    by_cases heq : openings record = n
    · subst heq
      simp only [beq_self_eq_true, if_true, Nat.lt_irrefl, if_false] at hn ⊢
      rw [if_pos (Nat.lt_succ_self _)]
      omega
    · have hlt : n < openings record + 1 ↔ n < openings record := by omega
      simp only [beq_iff_eq, heq, if_false, hlt]
      exact hn
  · rw [closings_append, h.outside]
    rfl

/-- The session closed is no longer held. -/
theorem close {n : Nat} (h : Accounts record (n :: held)) (ending : Outcome Unit) :
    Accounts (record ++ [.close (.opened n) ending]) held := by
  refine ⟨fun m => ?_, ?_⟩
  · have hm := h.opened m
    rw [openings_append, closings_append]
    change closings (.opened m) record + closings (.opened m) [.close (.opened n) ending] + _ =
      if m < openings record + 0 then 1 else 0
    have hclosings : closings (.opened m) [.close (.opened n) ending] = if n = m then 1 else 0 := by
      by_cases heq : n = m <;> simp [closings, Event.isClosing, heq]
    rw [List.count_cons] at hm
    rw [hclosings, Nat.add_zero, ← hm]
    simp only [beq_iff_eq]
    omega
  · rw [closings_append, h.outside]
    rfl

/-- When nothing is held, the sessions closed are exactly those opened, each once. -/
theorem closings_eq (h : Accounts record []) (n : Nat) :
    closings (.opened n) record = if n < openings record then 1 else 0 := by
  rw [← h.opened n, List.count_nil, Nat.add_zero]

end Accounts

end PgVitals

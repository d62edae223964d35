import PgVitals.Proofs.Descriptor.Client
import PgVitals.Proofs.Server.Attentive
import PgVitals.Server.Unreachable

/-!
# Connecting through a client

To open a session, the context is asked, the descriptor is read by a client library, the attempt is
bounded by what is left of the scrape, and an attempt that failed is told from a context that ended
meanwhile.  Here the library is any that reaches no server: its attempts may take time and change
the world around them, but all fail.  The connector that comes with the program is this one with a
library whose attempts take no time.

The library decides with the descriptor in hand, so what it makes of a password is an assumption on
it: one written as a value neither makes it accept or reject the descriptor nor changes an attempt.
-/

namespace PgVitals

open Text KeyValue

variable {σ τ κ : Type}

/-- A client library that reaches no server; `κ` is what it reads from descriptors. -/
structure Client (σ κ : Type) where
  /-- What it reads from a descriptor, or the text that says why it rejects it. -/
  read : String → Except String κ
  /-- Whether an attempt has a bound of its own. -/
  isBounded : κ → Bool
  /-- An attempt, with the milliseconds it may take if they are bounded: why it failed. -/
  attempt : κ → Option Nat → Step (Scene σ) String

namespace Client

variable {client : Client σ κ} {ctx : ContextId} {descriptor descriptor' : String}

/-! ## Attempts -/

/-- The milliseconds an attempt may take, if they are bounded. -/
def bound (client : Client σ κ) (options : κ) (ctx : ContextId) (scene : Scene σ) : Option Nat :=
  if client.isBounded options then none else scene.contexts.remaining? ctx

/-- Tries to open a session with what was read from a descriptor. -/
def tryOpen (client : Client σ κ) (options : κ) (ctx : ContextId) : Step (Scene σ) τ := do
  let scene ← Step.state
  if client.bound options ctx scene = some 0 then Step.fail .deadlineExceeded
  else
    let problem ← client.attempt options (client.bound options ctx scene)
    Scene.check ctx
    Step.fail (.connectionFailed problem)

/-- Tries to open a session from a descriptor. -/
def connect (client : Client σ κ) (ctx : ContextId) (descriptor : String) : Step (Scene σ) τ := do
  Scene.check ctx
  let options ← Step.ofExcept ((client.read descriptor).mapError .invalidDescriptor)
  client.tryOpen options ctx

theorem isDone_tryOpen (client : Client σ κ) (options : κ) (ctx : ContextId) (scene : Scene σ) :
    (client.tryOpen options ctx scene : Outcome τ × Scene σ).1.isDone = false := by
  refine Step.isDone_bind_of_next (fun now s => ?_) _ scene
  split
  · rfl
  · refine Step.isDone_bind_of_next (fun problem => Step.isDone_bind_of_next (fun _ _ => ?_) _) _ s
    rfl

/-- No session is opened. -/
theorem isDone_connect (client : Client σ κ) (ctx : ContextId) (descriptor : String)
    (scene : Scene σ) :
    (client.connect ctx descriptor scene : Outcome τ × Scene σ).1.isDone = false :=
  Step.isDone_bind_of_next
    (fun _ => Step.isDone_bind_of_next (fun options => client.isDone_tryOpen options ctx) _) _ scene

/-! ## Passwords -/

/-- What the library makes of a descriptor: why it rejects it, or how attempts with it go. -/
def plan (client : Client σ κ) (descriptor : String) :
    Except String (Bool × (Option Nat → Step (Scene σ) String)) :=
  (client.read descriptor).map fun options => (client.isBounded options, client.attempt options)

/-- A password that is written as a value makes no difference to the library: descriptors of the
same options with the same values, but for passwords, are accepted or rejected alike, and attempts
with them go alike. -/
def IgnoresPasswords (client : Client σ κ) : Prop :=
  ∀ options options' : List (String × String),
    Descriptor.read (text ⟨quotedPairs options⟩) = .ok (.keyValue ⟨quotedPairs options⟩) →
      Descriptor.read (text ⟨quotedPairs options'⟩) = .ok (.keyValue ⟨quotedPairs options'⟩) →
        SameButPasswords ⟨quotedPairs options⟩ ⟨quotedPairs options'⟩ →
          client.plan (text ⟨quotedPairs options⟩) = client.plan (text ⟨quotedPairs options'⟩)

/-- An attempt to open a session depends only on what the library makes of the descriptor. -/
theorem connect_congr (h : client.plan descriptor = client.plan descriptor') (ctx : ContextId) :
    (client.connect ctx descriptor : Step (Scene σ) τ) = client.connect ctx descriptor' := by
  rw [plan, plan] at h
  rw [connect, connect]
  cases hread : client.read descriptor with
  | error problem =>
    cases hread' : client.read descriptor' with
    | ok options => simp [hread, hread', Except.map] at h
    | error problem' =>
      obtain rfl : problem = problem' := by simpa [hread, hread', Except.map] using h
      rfl
  | ok options =>
    cases hread' : client.read descriptor' with
    | error problem => simp [hread, hread', Except.map] at h
    | ok options' =>
      obtain ⟨hbounded, hattempt⟩ : client.isBounded options = client.isBounded options' ∧
          client.attempt options = client.attempt options' := by
        simpa [hread, hread', Except.map] using h
      have hbound : client.bound options ctx = client.bound options' ctx := by
        funext scene
        rw [bound, bound, hbounded]
      have htry :
          (client.tryOpen options ctx : Step (Scene σ) τ) = client.tryOpen options' ctx := by
        rw [tryOpen, tryOpen, hbound, hattempt]
      have hcontinue : ∀ o : κ, (Step.ofExcept ((Except.ok o : Except String κ).mapError
          Fault.invalidDescriptor) >>=
          fun options => client.tryOpen options ctx : Step (Scene σ) τ) =
            client.tryOpen o ctx := fun _ => rfl
      rw [hcontinue, hcontinue, htry]

end Client

/-! ## The client that comes with the program -/

namespace Unreachable

/-- The library of the connector that comes with the program: no option that it reads bounds an
attempt, and an attempt takes no time. -/
def client : Client σ ClientOptions where
  read descriptor :=
    match ClientOptions.read? descriptor with
    | some options => .ok options
    | none => .error "invalid connection string"
  isBounded _ := false
  attempt options _ :=
    pure (if options.isUsable then "error connecting to server" else "invalid configuration")

/-- An attempt under an open context finds it open again, since no time passes. -/
theorem client_tryOpen {ctx : ContextId} {scene : Scene σ}
    (hopen : scene.contexts.ending? ctx = none) (options : ClientOptions) :
    client.tryOpen options ctx scene =
      ((.failed (if options.isUsable then .connectionFailed "error connecting to server"
        else .connectionFailed "invalid configuration") : Outcome τ), scene) := by
  have hbound : client.bound options ctx scene ≠ some 0 := Contexts.remaining?_of_open hopen
  have hstate : (Step.state : Step (Scene σ) (Scene σ)) scene = (.done scene, scene) := rfl
  have hattempt : client.attempt options (client.bound options ctx scene) scene =
      (.done (if options.isUsable then "error connecting to server"
        else "invalid configuration"), scene) := rfl
  rw [Client.tryOpen, Step.bind_of_done hstate, if_neg hbound, Step.bind_of_done hattempt,
    Step.bind_of_done (Scene.check_of_open hopen)]
  split <;> rfl

/-- The connector of the program connects through this library. -/
theorem connect_eq : (connect : ContextId → String → Step (Scene σ) τ) = client.connect := by
  funext ctx descriptor scene
  rw [connect, Client.connect]
  cases hending : scene.contexts.ending? ctx with
  | some k =>
    have hended := Scene.check_of_ended hending
    rw [Step.bind_of_failed hended, Step.bind_of_failed hended]
  | none =>
    have hopen := Scene.check_of_open hending
    rw [Step.bind_of_done hopen, Step.bind_of_done hopen, connectFault]
    cases hread : ClientOptions.read? descriptor with
    | none =>
      have hrejected : client.read (σ := σ) descriptor = .error "invalid connection string" := by
        simp only [client, hread]
      rw [hrejected]
      rfl
    | some options =>
      have haccepted : client.read (σ := σ) descriptor = .ok options := by
        simp only [client, hread]
      rw [haccepted]
      exact (client_tryOpen hending options).symm

theorem client_ignoresPasswords : (client : Client σ ClientOptions).IgnoresPasswords := by
  intro options options' hread hread' hsame
  simp only [Client.plan, client, ClientOptions.read?_congr hread hread' hsame]

end Unreachable

end PgVitals

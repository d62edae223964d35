import PgVitals.Step

/-!
# Cancellation

Every scrape runs under a context. A context ends once, by a call or when its deadline passes, and
keeps the cause for ever. Hooks registered on a context run when it ends; a hook registered on a
context that has ended runs at once. A hook counts its runs and may cancel a further context, whose
hooks run in turn before the hooks after it; since each cancellation ends a context that was open,
this comes to an end whatever the links.

Time is a number of milliseconds that only moves when somebody waits. When it moves, the contexts
whose deadlines have passed end, the earliest deadline first.
-/

namespace PgVitals

abbrev ContextId := Nat

/-- Why a context ended. -/
inductive Cause where
  | cancelled
  | deadline
deriving DecidableEq, Repr

/-- The fault that calls under a context end with once the context has ended. -/
def Cause.fault : Cause → Fault
  | .cancelled => .cancelled
  | .deadline => .deadlineExceeded

/-- What runs when a context ends. -/
structure Hook where
  /-- The name under which its runs are counted. -/
  name : String
  /-- The context that it cancels after it has been counted, if any. -/
  cancels : Option ContextId
deriving DecidableEq, Repr

/-- A hook and the number of its registration. -/
structure Registration where
  /-- Tells this registration from every other. -/
  number : Nat
  /-- What was registered. -/
  hook : Hook
deriving DecidableEq, Repr

structure Context where
  /-- Why it ended, if it has. -/
  cause : Option Cause
  /-- The time at which it ends by itself, if there is one. -/
  deadline : Option Nat
  /-- The registrations that have not been taken back, oldest first. -/
  registrations : List Registration
deriving DecidableEq, Repr

def Context.isOpen (c : Context) : Bool := c.cause.isNone

/-- All contexts, the time, and what hooks have done. -/
structure Contexts where
  /-- The time in milliseconds. -/
  now : Nat
  /-- The contexts; each is named by its place. -/
  all : List Context
  /-- How many registrations there have been. -/
  registered : Nat
  /-- The names of the hooks that ran, in the order of their runs. -/
  runs : List String
deriving DecidableEq, Repr

namespace Contexts

def startingAt (now : Nat) : Contexts := ⟨now, [], 0, []⟩

def context? (cs : Contexts) (id : ContextId) : Option Context := cs.all[id]?

def cause? (cs : Contexts) (id : ContextId) : Option Cause := (cs.context? id).bind (·.cause)

def modify (cs : Contexts) (id : ContextId) (f : Context → Context) : Contexts :=
  { cs with all := cs.all.modify id f }

/-! ## Ending a context -/

def openCount (cs : Contexts) : Nat := cs.all.countP Context.isOpen

/-- Ends a context that is open: the hooks to run, and the contexts after that. -/
def end? (cs : Contexts) (id : ContextId) (cause : Cause) : Option (List Hook × Contexts) :=
  match cs.all[id]? with
  | none => none
  | some c =>
    if c.isOpen then
      some (c.registrations.map Registration.hook,
        { cs with all := cs.all.set id { c with cause := some cause } })
    else none

theorem openCount_lt_of_end? {cs cs' : Contexts} {id : ContextId} {cause : Cause}
    {hooks : List Hook} (h : cs.end? id cause = some (hooks, cs')) :
    cs'.openCount < cs.openCount := by
  unfold end? at h
  split at h
  · simp at h
  · rename_i c hc
    split at h
    · rename_i hopen
      simp only [Option.some.injEq, Prod.mk.injEq] at h
      obtain ⟨-, rfl⟩ := h
      obtain ⟨hlt, rfl⟩ := List.getElem?_eq_some_iff.1 hc
      have hpos : 0 < cs.all.countP Context.isOpen :=
        List.countP_pos_iff.2 ⟨_, List.getElem_mem hlt, hopen⟩
      simp only [openCount, List.countP_set hlt, hopen, if_true]
      simp only [Context.isOpen, Option.isNone_some, Bool.false_eq_true, if_false]
      omega
    · simp at h

def count (cs : Contexts) (hook : Hook) : Contexts := { cs with runs := cs.runs ++ [hook.name] }

/-- Runs the hooks one after the other. When a hook ends a further context, the hooks of that
context run before the rest. -/
def settle (pending : List Hook) (cs : Contexts) : Contexts :=
  match pending with
  | [] => cs
  | hook :: rest =>
    match hook.cancels with
    | none => settle rest (cs.count hook)
    | some id =>
      match h : (cs.count hook).end? id .cancelled with
      -- Ended before: its hooks have run, or are among those pending.
      | none => settle rest (cs.count hook)
      | some (hooks, cs') =>
        have : cs'.openCount < (cs.count hook).openCount := openCount_lt_of_end? h
        -- One open context fewer, which is what the recursion goes down by.
        settle (hooks ++ rest) cs'
termination_by (cs.openCount, pending.length)
decreasing_by
  · exact Prod.Lex.right _ (Nat.lt_succ_self _)
  · exact Prod.Lex.right _ (Nat.lt_succ_self _)
  · exact Prod.Lex.left _ _ this

/-- Ends a context with a cause, unless it has ended before, and runs its hooks. -/
def conclude (cs : Contexts) (id : ContextId) (cause : Cause) : Contexts :=
  match cs.end? id cause with
  | none => cs
  | some (hooks, cs) => settle hooks cs

def cancel (cs : Contexts) (id : ContextId) : Contexts := cs.conclude id .cancelled

/-! ## Making contexts -/

def add (cs : Contexts) (c : Context) : ContextId × Contexts :=
  (cs.all.length, { cs with all := cs.all ++ [c] })

/-- A context that ends only when cancelled. -/
def background (cs : Contexts) : ContextId × Contexts := cs.add ⟨none, none, []⟩

def alreadyCancelled (cs : Contexts) : ContextId × Contexts := cs.add ⟨some .cancelled, none, []⟩

/-- A context whose deadline has passed and was noticed. -/
def alreadyExpired (cs : Contexts) : ContextId × Contexts :=
  cs.add ⟨some .deadline, some cs.now, []⟩

/-- The last second that the clock can name. -/
def lastSecond : Nat := UInt64.size / 2 - 1

/-- A context that ends by itself after so many milliseconds; without a deadline when there are
none. A deadline that the clock cannot name is a crash. -/
def withTimeout (milliseconds : Nat) : Step Contexts ContextId := fun cs =>
  if milliseconds = 0 then
    let (id, cs) := cs.background
    (.done id, cs)
  else if lastSecond < (cs.now + milliseconds) / 1000 then
    (.crashed (some "overflow when adding duration to instant"), cs)
  else
    let (id, cs) := cs.add ⟨none, some (cs.now + milliseconds), []⟩
    (.done id, cs)

/-! ## Asking a context -/

/-- Ends a context whose deadline has passed. -/
def notice (cs : Contexts) (id : ContextId) : Contexts :=
  match (cs.context? id).bind (·.deadline) with
  | some deadline => if deadline ≤ cs.now then cs.conclude id .deadline else cs
  | none => cs

/-- Whether a context has ended; a deadline that has passed is noticed. -/
def isCancelled (cs : Contexts) (id : ContextId) : Bool × Contexts :=
  let cs := cs.notice id
  ((cs.cause? id).isSome, cs)

/-- The fault that tells why a context ended; that of a call when it has not. -/
def cancellationFault (cs : Contexts) (id : ContextId) : Fault :=
  ((cs.cause? id).getD .cancelled).fault

/-- Fails when a context has ended. -/
def check (id : ContextId) : Step Contexts Unit := fun cs =>
  let (ended, cs) := cs.isCancelled id
  if ended then (.failed (cs.cancellationFault id), cs) else (.done (), cs)

/-- The milliseconds left before the deadline, if there is one. -/
def remaining? (cs : Contexts) (id : ContextId) : Option Nat :=
  ((cs.context? id).bind (·.deadline)).map (· - cs.now)

def describe (cs : Contexts) (id : ContextId) : String :=
  let deadline := match (cs.context? id).bind (·.deadline) with
    | none => "None"
    | some deadline => "Some(" ++ toString deadline ++ ")"
  "ScrapeContext \x7b cancelled: " ++ toString (cs.cause? id).isSome ++ ", deadline: " ++
    deadline ++ " \x7d"

/-! ## Hooks -/

/-- Registers a hook on a context and returns the number of the registration. -/
def register (cs : Contexts) (id : ContextId) (hook : Hook) : Nat × Contexts :=
  let number := cs.registered
  let cs := { cs.modify id fun c =>
      { c with registrations := c.registrations ++ [⟨number, hook⟩] } with
    registered := number + 1 }
  (number, if (cs.cause? id).isSome then settle [hook] cs else cs)

def unregister (cs : Contexts) (id : ContextId) (number : Nat) : Contexts :=
  cs.modify id fun c =>
    { c with registrations := c.registrations.filter (·.number ≠ number) }

/-! ## Time -/

/-- The contexts that are open and have a deadline up to a time, the earliest deadline first. -/
def due (cs : Contexts) (time : Nat) : List (Nat × ContextId) :=
  let deadlines := (List.range cs.all.length).filterMap fun id =>
    match cs.context? id with
    | some ⟨none, some deadline, _⟩ => if deadline ≤ time then some (deadline, id) else none
    | _ => none
  deadlines.mergeSort fun a b => a.1 ≤ b.1

/-- Lets the time pass up to the first of the deadlines after which a context has ended, or else up
to the limit. -/
def passUntil (id : ContextId) (limit : Nat) : List (Nat × ContextId) → Contexts → Contexts
  | [], cs => { cs with now := max cs.now limit }
  | (deadline, other) :: rest, cs =>
    let cs := { cs with now := max cs.now deadline }.conclude other .deadline
    if (cs.cause? id).isSome then cs else passUntil id limit rest cs

/-- How long a statement that waits for its cancellation waits. -/
def patience : Nat := 10000

/-- Waits until a context ends, as a statement does that runs until it is cancelled. -/
def await {α : Type} (id : ContextId) : Step Contexts α := fun cs =>
  let cs :=
    if (cs.cause? id).isSome then cs
    else passUntil id (cs.now + patience) (cs.due (cs.now + patience)) cs
  if (cs.cause? id).isSome then (.failed (cs.cancellationFault id), cs)
  else (.failed (.queryFailed "statement was never cancelled"), cs)

end Contexts

end PgVitals

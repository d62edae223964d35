import PgVitals.Proofs.Server.Audit

/-!
# Sessions that are told their timeout first

The statements sent on a session are read off the record of the calls.  A record is directed when
every session opened was told the timeout before anything else, and nothing else was sent on a
session that refused it; without a timeout no session is told one.  The lemmas follow the calls as
they are recorded: a session is opened together with the statement that sets its timeout, and then
takes any statements that set none.
-/

namespace PgVitals

/-- A statement and how it ended. -/
abbrev Sent := String × Outcome (List Row)

namespace Event

/-- The statement, if it was sent on a session of this origin. -/
def sent? (origin : Origin) : Event → Option Sent
  | query other sql ending => if other = origin then some (sql, ending) else none
  | _ => none

/-- A statement as it is recorded on a session of an origin. -/
def ofSent (origin : Origin) (statement : Sent) : Event := query origin statement.1 statement.2

end Event

/-- The statements sent on sessions of an origin, in order. -/
def sent (origin : Origin) (record : List Event) : List Sent :=
  record.filterMap (Event.sent? origin)

theorem sent_append (origin : Origin) (record events : List Event) :
    sent origin (record ++ events) = sent origin record ++ sent origin events :=
  List.filterMap_append

theorem sent_query (origin other : Origin) (sql : String) (ending : Outcome (List Row)) :
    sent origin [.query other sql ending] = if other = origin then [(sql, ending)] else [] := by
  by_cases h : other = origin <;> simp [sent, Event.sent?, h]

/-- The statement sets no timeout. -/
def SetsNoTimeout (sql : String) : Prop := ∀ timeout, sql ≠ timeoutStatement timeout

/-- **Every session is told its timeout first.**  A timeout other than zero is set by the first
statement on each session opened, and that is the only one unless it succeeded; a timeout of zero is
not set on any.  Statements go to sessions opened here. -/
structure Directed (timeout : Nat) (record : List Event) : Prop where
  first : timeout ≠ 0 → ∀ n < openings record, ∃ ending rest,
    sent (.opened n) record = (timeoutStatement timeout, ending) :: rest ∧
      (ending.isDone = false → rest = [])
  never : timeout = 0 → ∀ origin, ∀ statement ∈ sent origin record, SetsNoTimeout statement.1
  opened : ∀ n, openings record ≤ n → sent (.opened n) record = []
  outside : sent .outside record = []

/-- A session that takes statements: it was opened here, and its timeout was set if there is one. -/
structure Obeys (timeout : Nat) (n : Nat) (record : List Event) : Prop where
  opened : n < openings record
  set : timeout ≠ 0 → ∃ rows rest,
    sent (.opened n) record = (timeoutStatement timeout, .done rows) :: rest

namespace Obeys

variable {timeout n : Nat} {record : List Event}

/-- Whatever happens later, the session goes on to take statements. -/
theorem append (h : Obeys timeout n record) (events : List Event) :
    Obeys timeout n (record ++ events) where
  opened := by
    rw [Accounts.openings_append]
    exact Nat.lt_add_right _ h.opened
  set := by
    intro htimeout
    obtain ⟨rows, rest, hset⟩ := h.set htimeout
    refine ⟨rows, rest ++ sent (.opened n) events, ?_⟩
    rw [sent_append, hset, List.cons_append]

end Obeys

namespace Directed

variable {timeout n : Nat} {record : List Event}

theorem nil (timeout : Nat) : Directed timeout [] where
  first := fun _ n hn => absurd hn (Nat.not_lt_zero n)
  never := fun _ _ _ hmem => absurd hmem List.not_mem_nil
  opened := fun _ _ => rfl
  outside := rfl

/-- A call that opens no session and sends nothing. -/
theorem idle {e : Event} (h : Directed timeout record) (hopen : e.isOpening = false)
    (hsent : ∀ origin, e.sent? origin = none) : Directed timeout (record ++ [e]) := by
  have hopenings : openings (record ++ [e]) = openings record := by
    rw [Accounts.openings_append]
    simp [openings, hopen]
  -- An event that opens nothing and sends nothing is seen by none of the four conditions.
  have hstatements : ∀ origin, sent origin (record ++ [e]) = sent origin record := by
    intro origin
    rw [sent_append]
    simp [sent, hsent origin]
  refine ⟨?_, ?_, ?_, ?_⟩
  · simpa only [hopenings, hstatements] using h.first
  · simpa only [hstatements] using h.never
  · simpa only [hopenings, hstatements] using h.opened
  · rw [hstatements]
    exact h.outside

theorem close (h : Directed timeout record) (origin : Origin) (ending : Outcome Unit) :
    Directed timeout (record ++ [.close origin ending]) :=
  h.idle rfl fun _ => rfl

theorem connect_of_not_done {ending : Outcome Unit} (h : Directed timeout record)
    (hending : ending.isDone = false) (descriptor : String) :
    Directed timeout (record ++ [.connect descriptor ending]) := by
  refine h.idle ?_ fun _ => rfl
  cases ending with
  | done value => cases hending
  | failed fault => rfl
  | crashed note => rfl

/-- A session takes a statement that sets no timeout. -/
theorem query (h : Directed timeout record) (hn : Obeys timeout n record) {sql : String}
    (hsql : SetsNoTimeout sql) (ending : Outcome (List Row)) :
    Directed timeout (record ++ [.query (.opened n) sql ending]) where
  first := by
    intro htimeout m hm
    have hopened : m < openings record := by
      rw [Accounts.openings_append] at hm
      exact hm
    obtain ⟨first, rest, hfirst, hrefused⟩ := h.first htimeout m hopened
    rw [sent_append, sent_query]
    by_cases hmn : n = m
    · -- The session took the timeout, so that something may come behind it.
      subst hmn
      obtain ⟨rows, more, hset⟩ := hn.set htimeout
      refine ⟨.done rows, more ++ [(sql, ending)], ?_, fun hdone => by cases hdone⟩
      rw [hset, if_pos rfl, List.cons_append]
    · refine ⟨first, rest, ?_, hrefused⟩
      rw [if_neg (fun heq => hmn (Origin.opened.inj heq)), List.append_nil, hfirst]
  never := by
    intro htimeout origin statement hmem
    rw [sent_append, sent_query, List.mem_append] at hmem
    obtain hmem | hmem := hmem
    · exact h.never htimeout origin statement hmem
    · split at hmem
      · rw [List.mem_singleton.1 hmem]
        exact hsql
      · cases hmem
  opened := by
    intro m hm
    rw [Accounts.openings_append] at hm
    have hne : Origin.opened n ≠ .opened m := by
      intro heq
      have hlt := hn.opened
      rw [Origin.opened.inj heq] at hlt
      exact absurd hlt (Nat.not_lt.2 hm)
    rw [sent_append, sent_query, if_neg hne, List.append_nil]
    exact h.opened m hm
  outside := by
    rw [sent_append, sent_query, if_neg (by simp), List.append_nil]
    exact h.outside

/-- A session takes statements one after the other. -/
theorem queries {statements : List Sent} (hstatements : ∀ p ∈ statements, SetsNoTimeout p.1)
    (h : Directed timeout record) (hn : Obeys timeout n record) :
    Directed timeout (record ++ statements.map (.ofSent (.opened n))) := by
  induction statements generalizing record with
  | nil => rwa [List.map_nil, List.append_nil]
  | cons p rest ih =>
    obtain ⟨hp, hrest⟩ := List.forall_mem_cons.1 hstatements
    have hafter := ih hrest (h.query hn hp p.2) (hn.append _)
    rw [List.append_assoc] at hafter
    exact hafter

/-- Without a timeout a session that is opened takes statements at once. -/
theorem connect_untimed (h : Directed timeout record) (htimeout : timeout = 0)
    (descriptor : String) :
    Directed timeout (record ++ [.connect descriptor (.done ())]) ∧
      Obeys timeout (openings record) (record ++ [.connect descriptor (.done ())]) := by
  have hstatements : ∀ origin, sent origin (record ++ [.connect descriptor (.done ())]) =
      sent origin record := fun origin => (sent_append _ _ _).trans (List.append_nil _)
  have hopenings : openings (record ++ [.connect descriptor (.done ())]) = openings record + 1 :=
    Accounts.openings_append _ _
  refine ⟨⟨fun hne => absurd htimeout hne, ?_, ?_, ?_⟩, ⟨?_, fun hne => absurd htimeout hne⟩⟩
  · simpa only [hstatements] using h.never
  · intro n hn
    rw [hopenings] at hn
    rw [hstatements]
    exact h.opened n (Nat.le_of_succ_le hn)
  · rw [hstatements]
    exact h.outside
  · rw [hopenings]
    exact Nat.lt_succ_self _

/-- The calls that open the `n`-th session and tell it the timeout. -/
def timedOpening (timeout n : Nat) (descriptor : String) (ending : Outcome (List Row)) :
    List Event :=
  [.connect descriptor (.done ()), .query (.opened n) (timeoutStatement timeout) ending]

theorem sent_timedOpening (timeout n : Nat) (descriptor : String) (ending : Outcome (List Row))
    (origin : Origin) (record : List Event) :
    sent origin (record ++ timedOpening timeout n descriptor ending) =
      sent origin record ++
        if .opened n = origin then [(timeoutStatement timeout, ending)] else [] := by
  rw [sent_append, ← sent_query]
  rfl

/-- A session that is opened and told the timeout takes statements if it took that one. -/
theorem connect_timed (h : Directed timeout record) (htimeout : timeout ≠ 0) (descriptor : String)
    (ending : Outcome (List Row)) :
    let after := record ++ timedOpening timeout (openings record) descriptor ending
    Directed timeout after ∧
      (ending.isDone = true → Obeys timeout (openings record) after) := by
  intro after
  have hopenings : openings after = openings record + 1 := Accounts.openings_append _ _
  have hhere : sent (.opened (openings record)) after = [(timeoutStatement timeout, ending)] := by
    rw [sent_timedOpening, h.opened _ (Nat.le_refl _), if_pos rfl, List.nil_append]
  have helsewhere : ∀ origin, .opened (openings record) ≠ origin →
      sent origin after = sent origin record := by
    intro origin horigin
    rw [sent_timedOpening, if_neg horigin, List.append_nil]
  have hothers : ∀ n, n ≠ openings record → sent (.opened n) after = sent (.opened n) record :=
    fun n hn => helsewhere _ fun heq => hn (Origin.opened.inj heq).symm
  refine ⟨⟨fun _ n hn => ?_, fun hzero => absurd hzero htimeout, fun n hn => ?_, ?_⟩,
    fun hdone => ⟨?_, fun _ => ?_⟩⟩
  · by_cases hnew : n = openings record
    · subst hnew
      exact ⟨ending, [], hhere, fun _ => rfl⟩
    · rw [hothers n hnew]
      exact h.first htimeout n (by omega)
  · rw [hothers n (by omega)]
    exact h.opened n (by omega)
  · rw [helsewhere _ (by simp)]
    exact h.outside
  · omega
  · obtain ⟨rows, rfl⟩ := Outcome.exists_of_isDone hdone
    exact ⟨rows, [], hhere⟩

end Directed

end PgVitals

import PgVitals.Proofs.Cancellation.Tally

/-!
# Using contexts

Contexts are used through handles, which can be copied and dropped, and through registrations, which
can be taken back.  Nobody fixes in which order the registrations of a context run when it ends.
Whatever is done, and in whatever order the hooks run, every call comes to its end; what it cancels
is what it reaches; each registration runs once, when its context ends or at once if it has ended;
and a context that has ended tells the same cause for ever.
-/

namespace PgVitals

/-! ## Uses -/

/-- The contexts, the handles on them and the registrations that have run. -/
structure Usage where
  contexts : Contexts
  /-- The contexts that the handles are on; none when the handle was dropped. -/
  handles : List (Option ContextId)
  /-- The registrations that have run, in the order of their runs. -/
  ran : List Registration

/-- What is done to contexts. -/
inductive Act where
  /-- A context is made, open and without a deadline, or one that has ended. -/
  | make (ending : Option Cause)
  | clone (handle : Nat)
  | drop (handle : Nat)
  | register (handle : Nat) (hook : Hook)
  | unregister (id : ContextId) (number : Nat)
  | cancel (handle : Nat)

namespace Usage

/-- The handle is on a context. -/
def Holds (u : Usage) (handle : Nat) (id : ContextId) : Prop := u.handles[handle]? = some (some id)

/-- One use, with the registrations that run because of it in any order. -/
inductive Does (u : Usage) : Act → Usage → Prop where
  | make (ending : Option Cause) :
    Does u (.make ending) { u with
      contexts := (u.contexts.made ending).2
      handles := u.handles ++ [some (u.contexts.made ending).1] }
  | clone {handle : Nat} {id : ContextId} (h : u.Holds handle id) :
    Does u (.clone handle) { u with handles := u.handles ++ [some id] }
  | drop {handle : Nat} {id : ContextId} (h : u.Holds handle id) :
    Does u (.drop handle) { u with handles := u.handles.set handle none }
  | register {handle : Nat} {id : ContextId} {hook : Hook} {cs : Contexts}
      {ran : List Registration} (h : u.Holds handle id)
      (hregisters : u.contexts.Registers id hook ran cs) :
    Does u (.register handle hook) { u with contexts := cs, ran := u.ran ++ ran }
  | unregister (id : ContextId) (number : Nat) :
    Does u (.unregister id number) { u with contexts := u.contexts.unregister id number }
  | cancel {handle : Nat} {id : ContextId} {cs : Contexts} {ran : List Registration}
      (h : u.Holds handle id) (hcancels : u.contexts.Cancels id ran cs) :
    Does u (.cancel handle) { u with contexts := cs, ran := u.ran ++ ran }

/-- One use after the other. -/
inductive Course : List Act → Usage → Usage → Prop where
  | nil (u : Usage) : Course [] u u
  | cons {act : Act} {acts : List Act} {u u' u'' : Usage} (h : u.Does act u')
      (more : Course acts u' u'') : Course (act :: acts) u u''

/-- What one use keeps is kept by all of them. -/
theorem Course.keeps {P : Usage → Prop} (hP : ∀ {act u u'}, P u → u.Does act u' → P u')
    {acts : List Act} {u u' : Usage} (h : Course acts u u') (hu : P u) : P u' := by
  induction h with
  | nil u => exact hu
  | cons h more ih => exact ih (hP hu h)

/-! ## Sound usage -/

open Contexts

variable {act : Act} {acts : List Act} {u u' v v' : Usage} {number : Nat}

/-- Handles are on contexts that there are, contexts that are open have no deadline, and the tally
of the runs is in order. -/
structure Sound (u : Usage) : Prop where
  tallied : u.contexts.Tallied u.ran
  held : ∀ id, some id ∈ u.handles → id < u.contexts.all.length
  undated : u.contexts.Undated

theorem Sound.lt_of_holds (h : u.Sound) {handle : Nat} {id : ContextId} (hid : u.Holds handle id) :
    id < u.contexts.all.length := h.held id (List.mem_of_getElem? hid)

/-- Where there are no contexts yet, the usage is sound. -/
theorem sound_startingAt (now : Nat) : Sound ⟨.startingAt now, [], []⟩ := by
  refine ⟨⟨?_, ?_, ?_, ?_, ?_, ?_⟩, ?_, ?_⟩
  · intro id r hr
    cases hr
  · intro id
    exact List.nodup_nil
  · intro id id' r r' hr
    cases hr
  · intro r hr
    cases hr
  · exact List.nodup_nil
  · intro id hopen r hr
    cases hr
  · intro id hid
    cases hid
  · intro id c hc
    cases hc

theorem Sound.enlisted (h : u.Sound) {id : ContextId} (hid : id < u.contexts.all.length)
    (hook : Hook) : Sound { u with contexts := u.contexts.enlisted id hook } := by
  refine ⟨h.tallied.enlisted hid hook, fun other hother => ?_, h.undated.enlisted id hook⟩
  change other < (u.contexts.all.modify id _).length
  rw [List.length_modify]
  exact h.held other hother

/-- A cascade leaves a sound usage sound. -/
theorem Sound.spreads {cs cs' : Contexts} {handles : List (Option ContextId)}
    {before ran initial : List Registration} {target : Option ContextId} {ended : List ContextId}
    (h : Sound ⟨cs, handles, before⟩) (hinitial : cs.Overdue before initial)
    (hspreads : cs.Spreads target initial ended ran cs') :
    Sound ⟨cs', handles, before ++ ran⟩ := by
  refine ⟨h.tallied.spreads hinitial hspreads, fun id hid => ?_, ?_⟩
  · rw [hspreads.length_eq]
    exact h.held id hid
  · rw [hspreads.contexts_eq]
    exact h.undated.after ended ran

theorem Sound.does (h : u.Sound) (hdoes : u.Does act u') : u'.Sound := by
  cases hdoes with
  | make ending =>
    obtain ⟨c, hmade, hc, -⟩ := u.contexts.made_eq_add ending
    refine ⟨?_, ?_, h.undated.made ending⟩
    · rw [hmade]
      exact h.tallied.add hc
    · intro id hid
      rw [hmade] at hid ⊢
      change id < (u.contexts.all ++ [c]).length
      rw [List.length_append, List.length_singleton]
      rcases List.mem_append.1 hid with hid | hid
      · exact Nat.lt_succ_of_lt (h.held id hid)
      · obtain rfl := Option.some.inj (List.mem_singleton.1 hid)
        exact Nat.lt_succ_self _
  | clone hid =>
    refine ⟨h.tallied, fun other hother => ?_, h.undated⟩
    rcases List.mem_append.1 hother with hother | hother
    · exact h.held other hother
    · obtain rfl := Option.some.inj (List.mem_singleton.1 hother)
      exact h.lt_of_holds hid
  | drop hid =>
    refine ⟨h.tallied, fun other hother => ?_, h.undated⟩
    rcases List.mem_or_eq_of_mem_set hother with hother | hother
    · exact h.held other hother
    · cases hother
  | @register handle id hook cs ran hid hregisters =>
    have hlt := h.lt_of_holds hid
    have henlisted := h.enlisted hlt hook
    cases hcause : u.contexts.cause? id with
    | none =>
      obtain ⟨rfl, rfl⟩ := hregisters.eq_of_waiting hcause
      rw [List.append_nil]
      exact henlisted
    | some cause =>
      obtain ⟨ended, hspreads⟩ := hregisters.spreads_of_ended hcause
      exact henlisted.spreads (h.tallied.overdue_enlisted hlt hcause hook) hspreads
  | unregister id number =>
    refine ⟨h.tallied.unregister id number, fun other hother => ?_,
      h.undated.unregister id number⟩
    change other < (u.contexts.all.modify id _).length
    rw [List.length_modify]
    exact h.held other hother
  | cancel hid hcancels =>
    obtain ⟨ended, hspreads⟩ := hcancels.spreads
    exact Sound.spreads h (overdue_nil _ _) hspreads

theorem Sound.course (h : u.Sound) (hcourse : Course acts u u') : u'.Sound :=
  hcourse.keeps (fun h hdoes => h.does hdoes) h

/-! ## What stays -/

theorem retired_does (h : u.Sound ∧ u.contexts.Retired u.ran number) (hdoes : u.Does act u') :
    u'.contexts.Retired u'.ran number := by
  obtain ⟨hsound, h⟩ := h
  cases hdoes with
  | make ending =>
    obtain ⟨c, hmade, hc, -⟩ := u.contexts.made_eq_add ending
    rw [hmade]
    exact h.add hc
  | clone hid => exact h
  | drop hid => exact h
  | @register handle id hook cs ran hid hregisters =>
    have henlisted := h.enlisted (hsound.lt_of_holds hid) hook
    cases hcause : u.contexts.cause? id with
    | none =>
      obtain ⟨rfl, rfl⟩ := hregisters.eq_of_waiting hcause
      rw [List.append_nil]
      exact henlisted
    | some cause =>
      obtain ⟨ended, hspreads⟩ := hregisters.spreads_of_ended hcause
      -- The number that starts the cascade is new, so it is not the one retired.
      refine henlisted.spreads (fun r hr => ?_) hspreads
      rw [List.mem_singleton.1 hr]
      exact Ne.symm (Nat.ne_of_lt h.past)
  | unregister id other => exact h.unregister id other
  | cancel hid hcancels =>
    obtain ⟨ended, hspreads⟩ := hcancels.spreads
    refine h.spreads (fun r hr => ?_) hspreads
    cases hr

/-- A context that has ended keeps the cause. -/
theorem cause?_does {id : ContextId} {cause : Cause} (h : u.contexts.cause? id = some cause)
    (hdoes : u.Does act u') : u'.contexts.cause? id = some cause := by
  cases hdoes with
  | make ending =>
    obtain ⟨c, hmade, -, -⟩ := u.contexts.made_eq_add ending
    rw [hmade]
    exact cause?_add_of_ended c h
  | clone hid => exact h
  | drop hid => exact h
  | @register handle other hook cs ran hid hregisters =>
    have henlisted : (u.contexts.enlisted other hook).cause? id = some cause := by
      rw [cause?_enlisted, h]
    cases hcause : u.contexts.cause? other with
    | none =>
      obtain ⟨-, rfl⟩ := hregisters.eq_of_waiting hcause
      exact henlisted
    | some _ =>
      obtain ⟨ended, hspreads⟩ := hregisters.spreads_of_ended hcause
      exact hspreads.cause?_of_ended henlisted
  | unregister other number =>
    rw [Contexts.unregister, cause?_modify, h]
    intro c
    rfl
  | cancel hid hcancels =>
    obtain ⟨ended, hspreads⟩ := hcancels.spreads
    exact hspreads.cause?_of_ended h

/-! ## The order does not matter -/

/-- The same but for the order in which hooks ran. -/
structure Alike (u v : Usage) : Prop where
  now_eq : u.contexts.now = v.contexts.now
  all_eq : u.contexts.all = v.contexts.all
  registered_eq : u.contexts.registered = v.contexts.registered
  runs_perm : u.contexts.runs.Perm v.contexts.runs
  handles_eq : u.handles = v.handles
  ran_perm : u.ran.Perm v.ran

theorem Alike.refl (u : Usage) : u.Alike u := ⟨rfl, rfl, rfl, .refl _, rfl, .refl _⟩

theorem Alike.holds_eq (h : u.Alike v) {handle : Nat} {id id' : ContextId}
    (hu : u.Holds handle id) (hv : v.Holds handle id') : id = id' := by
  rw [Holds, h.handles_eq, hv] at hu
  exact (Option.some.inj (Option.some.inj hu)).symm

theorem Alike.nextRegistration_eq (h : u.Alike v) (hook : Hook) :
    u.contexts.nextRegistration hook = v.contexts.nextRegistration hook := by
  rw [nextRegistration, nextRegistration, h.registered_eq]

/-- Cascades that begin alike end alike. -/
theorem Alike.spreads {cs cs' cs₁ cs₂ : Contexts} {handles handles' : List (Option ContextId)}
    {before before' ran ran' initial : List Registration} {target : Option ContextId}
    {ended ended' : List ContextId} (h : Alike ⟨cs, handles, before⟩ ⟨cs', handles', before'⟩)
    (hspreads : cs.Spreads target initial ended ran cs₁)
    (hspreads' : cs'.Spreads target initial ended' ran' cs₂) :
    Alike ⟨cs₁, handles, before ++ ran⟩ ⟨cs₂, handles', before' ++ ran'⟩ := by
  have hran := (hspreads.perm h.all_eq hspreads').2
  refine ⟨?_, hspreads.all_eq h.all_eq hspreads', ?_, ?_, h.handles_eq, h.ran_perm.append hran⟩
  · rw [hspreads.contexts_eq, hspreads'.contexts_eq]
    exact h.now_eq
  · rw [hspreads.contexts_eq, hspreads'.contexts_eq]
    exact h.registered_eq
  · rw [hspreads.contexts_eq, hspreads'.contexts_eq]
    exact h.runs_perm.append (hran.map _)

theorem Alike.add (h : u.Alike v) (c : Context) :
    Alike
      { u with
        contexts := (u.contexts.add c).2
        handles := u.handles ++ [some (u.contexts.add c).1] }
      { v with
        contexts := (v.contexts.add c).2
        handles := v.handles ++ [some (v.contexts.add c).1] } := by
  refine ⟨h.now_eq, ?_, h.registered_eq, h.runs_perm, ?_, h.ran_perm⟩
  · simp only [Contexts.add, h.all_eq]
  · simp only [Contexts.add, h.all_eq, h.handles_eq]

theorem Alike.enlisted (h : u.Alike v) (id : ContextId) (hook : Hook) :
    Alike { u with contexts := u.contexts.enlisted id hook }
      { v with contexts := v.contexts.enlisted id hook } := by
  refine ⟨h.now_eq, ?_, congrArg (· + 1) h.registered_eq, h.runs_perm, h.handles_eq, h.ran_perm⟩
  simp only [Contexts.enlisted, Contexts.modify, h.all_eq, h.nextRegistration_eq]

theorem Alike.does (h : u.Alike v) (hu : u.Does act u') (hv : v.Does act v') : u'.Alike v' := by
  cases hu with
  | make ending =>
    cases hv
    have hnow := h.now_eq
    rcases ending with _ | _ | _
    · exact h.add _
    · exact h.add _
    · simp only [made, alreadyExpired, hnow]
      exact h.add _
  | clone hid =>
    cases hv with
    | clone hid' =>
      obtain rfl := h.holds_eq hid hid'
      exact { h with handles_eq := congrArg (· ++ _) h.handles_eq }
  | @drop handle id hid =>
    cases hv
    exact { h with handles_eq := congrArg (fun handles => handles.set handle none) h.handles_eq }
  | @register handle id hook cs ran hid hregisters =>
    cases hv with
    | register hid' hregisters' =>
      obtain rfl := h.holds_eq hid hid'
      have henlisted := h.enlisted id hook
      cases hcause : u.contexts.cause? id with
      | none =>
        have hcause' := (cause?_congr h.all_eq id).symm.trans hcause
        obtain ⟨rfl, rfl⟩ := hregisters.eq_of_waiting hcause
        obtain ⟨rfl, rfl⟩ := hregisters'.eq_of_waiting hcause'
        rw [List.append_nil, List.append_nil]
        exact henlisted
      | some cause =>
        have hcause' := (cause?_congr h.all_eq id).symm.trans hcause
        obtain ⟨ended, hspreads⟩ := hregisters.spreads_of_ended hcause
        obtain ⟨ended', hspreads'⟩ := hregisters'.spreads_of_ended hcause'
        rw [h.nextRegistration_eq] at hspreads
        exact henlisted.spreads hspreads hspreads'
  | unregister id number =>
    cases hv
    refine { h with all_eq := ?_ }
    simp only [Contexts.unregister, Contexts.modify, h.all_eq]
  | cancel hid hcancels =>
    cases hv with
    | cancel hid' hcancels' =>
      obtain rfl := h.holds_eq hid hid'
      obtain ⟨ended, hspreads⟩ := hcancels.spreads
      obtain ⟨ended', hspreads'⟩ := hcancels'.spreads
      exact Alike.spreads h hspreads hspreads'

theorem Alike.course (h : u.Alike v) (hu : Course acts u u') (hv : Course acts v v') :
    u'.Alike v' := by
  induction hu generalizing v with
  | nil u =>
    cases hv
    exact h
  | cons hdoes more ih =>
    cases hv with
    | cons hdoes' more' => exact ih (h.does hdoes hdoes') more'

end Usage

end PgVitals

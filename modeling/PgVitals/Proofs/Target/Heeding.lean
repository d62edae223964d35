import PgVitals.Proofs.Server.Heeding
import PgVitals.Proofs.Target.Sessions

/-!
# Targets heed the end of a context

Setting a target up sends the timeout and asks for the version, and its faults are changed on the
way; the fault of a context that ended is passed on as it is, and only the session just opened is
closed behind it.  Under a context that has ended before, not even a session is opened.
-/

namespace PgVitals

variable {σ τ ρ α : Type} {c : Connector σ τ} {ctx : ContextId} {log : σ → ρ}

/-- The invariant says that the target is under audit and holds a session that it opened, and it
does not depend on the world around the target. -/
structure Holding (c : Connector σ τ) (I : Site (Audited σ) (Traced τ) → Prop) : Prop where
  ready : ∀ site, I site → Ready c site
  scene : ∀ site scene, I site → I { site with scene := scene }

theorem holding_ready : Holding c (Ready c) := ⟨fun _ h => h, fun _ _ h => h.congr rfl rfl⟩

/-- A target that is ready stays so as long as it is not changed. -/
theorem Ready.holding {site : Site (Audited σ) (Traced τ)} (h : Ready c site) :
    Holding c fun site' => site'.target = site.target := by
  refine ⟨fun site' htarget => ?_, fun _ _ htarget => htarget⟩
  exact h.congr (by rw [htarget]) (by rw [htarget])

theorem Row.text_untold (row : Row) (column : Nat) : Untold (row.text column) := by
  unfold Row.text
  split
  · exact untold_ok _
  · exact untold_error rfl

namespace Target

section

variable {I : Site (Audited σ) (Traced τ) → Prop}

theorem onScene_heeds {step : Step (Scene (Audited σ)) α}
    (h : Step.Heeds c ctx id (fun _ => True) step) (hI : Holding c I) :
    Step.Heeds c ctx Site.scene I (onScene step) := by
  intro site hsite
  obtain ⟨-, events, hheeding⟩ := h site.scene trivial
  exact ⟨hI.scene site _ hsite, events, hheeding⟩

/-! ## Statements -/

theorem query_heeds (hI : Holding c I) (sql : String) :
    Step.Heeds c ctx Site.scene I (query ctx sql) := by
  intro site hsite
  obtain ⟨hconnector, traced, hhold⟩ := hI.ready site hsite
  rw [query_of_owned hhold, hconnector]
  exact onScene_heeds (c.query_heeds ctx traced sql) hI site hsite

/-- Under a context that has ended, a statement fails with the fault of the context. -/
theorem query_of_ended (hc : c.Attentive ctx log) {site : Site (Audited σ) (Traced τ)}
    (hready : Ready c site) {k : Cause} (hk : site.scene.contexts.ending? ctx = some k)
    (sql : String) : (query ctx sql site).1 = .failed k.fault := by
  obtain ⟨hconnector, traced, hhold⟩ := hready
  rw [query_of_owned hhold, hconnector]
  exact (hc.query_refused (s := site.scene.plain) hk traced.session sql).outcome_eq

theorem singleText_heeds (hI : Holding c I) (sql : String) :
    Step.Heeds c ctx Site.scene I (singleText ctx sql) := by
  refine (query_heeds hI sql).bind fun rows => ?_
  cases rows with
  | nil => exact Step.heeds_pure _
  | cons row rest => exact Step.heeds_ofExcept (row.text_untold 0)

theorem detectVersion_heeds (hI : Holding c I) :
    Step.Heeds c ctx Site.scene I (detectVersion ctx) := by
  refine (singleText_heeds hI _).bind fun verbose => ?_
  split
  · exact Step.heeds_pure _
  · refine (singleText_heeds hI _).bind fun bare => ?_
    split
    · exact Step.heeds_pure _
    · exact Step.heeds_fail rfl

/-! ## Setting up -/

theorem this_heeds : Step.Heeds c ctx Site.scene I this := by
  intro site hsite
  exact ⟨hsite, [], .nil _, .nothing rfl⟩

/-- A target with the invariant has its calls under audit. -/
theorem this_bind_heeds
    {next : Target (Audited σ) (Traced τ) → Step (Site (Audited σ) (Traced τ)) α}
    (hI : Holding c I)
    (h : ∀ t, t.connector = c.audited → Step.Heeds c ctx Site.scene I (next t)) :
    Step.Heeds c ctx Site.scene I (this >>= next) := fun site hsite =>
  h site.target (hI.ready site hsite).connector_eq site hsite

theorem configure_heeds : Step.Heeds c ctx Site.scene (Ready c) (configure ctx) := by
  have hnote : ∀ version : ServerVersion, Step.Heeds c ctx Site.scene (Ready c)
      (Step.update fun site => { site with target := { site.target with version := version } }) :=
    fun version site hsite => ⟨hsite.congr rfl rfl, [], .nil _, .nothing rfl⟩
  have hdetect : Step.Heeds c ctx Site.scene (Ready c) (detectVersion ctx >>= fun version =>
      Step.update fun site => { site with target := { site.target with version := version } }) :=
    (detectVersion_heeds holding_ready).bind hnote
  refine this_heeds.bind fun t => ?_
  split
  · have hexecute : Step.Heeds c ctx Site.scene (Ready c)
        (execute ctx (timeoutStatement t.statementTimeout)) :=
      (query_heeds holding_ready _).bind fun _ => Step.heeds_pure ()
    exact hexecute.mapFault.bind fun _ => hdetect
  · exact hdetect

/-- Closing makes no other call, whatever the target holds. -/
theorem close_closes (hc : c.Attentive ctx log) :
    Step.Closes c ctx Site.scene (fun site => site.target.connector = c.audited)
      (·.isCrashed = false) close := by
  intro site hconnector
  rcases howns : site.target.ownsSession with _ | _
  · rw [close_of_not_owned howns]
    exact ⟨rfl, [], .nil _, fun e he => by cases he⟩
  · obtain ⟨traced, hhold⟩ := exists_owned howns
    rw [close_of_owned hhold, hconnector]
    exact hc.close_closes traced site.scene trivial

theorem release_closes (hc : c.Attentive ctx log) :
    Step.Closes c ctx Site.scene (fun site => site.target.connector = c.audited)
      (· = .done ()) release := by
  intro site hconnector
  obtain ⟨hcalm, hevents⟩ := close_closes hc site hconnector
  rw [release_eq]
  exact ⟨Outcome.closedWith_of_not_crashed _ hcalm, hevents⟩

end

section

variable {site : Site (Audited σ) (Traced τ)}

theorem connector_close (site : Site σ τ) :
    (close site).2.target.connector = site.target.connector := by
  rcases site with ⟨⟨connector, descriptor, timeout, _ | (session | shared), version⟩, scene⟩ <;>
    rfl

/-- On a session just opened the target is set up and holds it, or its calls stay under audit. -/
theorem configure_undoing_ready (h : Ready c site) (ctx : ContextId) :
    ((configure ctx).undoing close site).2.target.connector = c.audited ∧
      (((configure ctx).undoing close site).1.isDone = true →
        Ready c ((configure ctx).undoing close site).2) := by
  have hready : Ready c (configure ctx site).2 := (configure_heeds site h).1
  rw [Step.undoing_eq]
  rcases hrun : configure ctx site with ⟨value | fault | note, after⟩ <;> rw [hrun] at hready
  · exact ⟨hready.connector_eq, fun _ => hready⟩
  · refine ⟨(connector_close after).trans hready.connector_eq, fun hdone => ?_⟩
    have hfailed :
        ((Outcome.failed fault : Outcome Unit).closedWith (close after).1).isDone = false :=
      Outcome.isDone_closedWith_of_not_done rfl _
    rw [hfailed] at hdone
    cases hdone
  · refine ⟨hready.connector_eq, fun hdone => ?_⟩
    cases hdone

/-- Setting up heeds its calls, and a target that is set up holds the session that it opened. -/
theorem setup_heeds (hc : c.Attentive ctx log) (h : site.target.connector = c.audited) :
    (setup ctx site).2.target.connector = c.audited ∧
      ((setup ctx site).1.isDone = true → Ready c (setup ctx site).2) ∧
      ∃ events, Heeding c ctx site.scene events (setup ctx site).1 (setup ctx site).2.scene := by
  have hcall : Contact c ctx site.scene _ _ := .connect site.target.descriptor.text site.scene
  -- Only a session that was opened is configured; otherwise the attempt is the one call.
  rcases hconnect : c.audited.connect ctx site.target.descriptor.text site.scene with
    ⟨traced | fault | note, after⟩ <;> rw [hconnect] at hcall <;> rw [← h] at hconnect
  · have hready : Ready c
        { target := { site.target with hold := some (.owned traced) }, scene := after } :=
      ⟨h, traced, rfl⟩
    have hclose : Step.Closes c ctx Site.scene (Ready c) (·.isCrashed = false) close :=
      fun site hsite => close_closes hc site hsite.connector_eq
    obtain ⟨hconnector, hdone⟩ := configure_undoing_ready hready ctx
    obtain ⟨events, htrail, htold⟩ := configure_heeds.undoing hclose hready
    rw [setup_of_done hconnect]
    have hopened : Told [.connect site.target.descriptor.text (.done ())] none := .nothing rfl
    exact ⟨hconnector, hdone, _ :: events, .cons hcall htrail, hopened.append htold⟩
  · have hsetup : setup ctx site = (.failed fault, { site with scene := after }) :=
      (Step.bind_of_failed (onScene_of hconnect)).trans rfl
    have htold := Told.connect site.target.descriptor.text (.failed fault : Outcome (Traced τ))
    rw [hsetup]
    exact ⟨h, (fun hdone => by cases hdone), _, .single hcall, htold⟩
  · have hsetup : setup ctx site = (.crashed note, { site with scene := after }) :=
      (Step.bind_of_crashed (onScene_of hconnect)).trans rfl
    rw [hsetup]
    exact ⟨h, (fun hdone => by cases hdone), _, .single hcall, .nothing rfl⟩

/-- Under a context that has ended, setting up fails with the fault of the context. -/
theorem setup_of_ended (hc : c.Attentive ctx log) (h : site.target.connector = c.audited)
    {k : Cause}
    (hk : site.scene.contexts.ending? ctx = some k) : (setup ctx site).1 = .failed k.fault := by
  have hrefused : (c.audited.connect ctx site.target.descriptor.text site.scene).1 =
      .failed k.fault := by
    have hplain := (hc.connect_refused (s := site.scene.plain) hk
      site.target.descriptor.text).outcome_eq
    change (c.connect ctx site.target.descriptor.text site.scene.plain).1.map _ = _
    rw [hplain]
    rfl
  rcases hconnect : c.audited.connect ctx site.target.descriptor.text site.scene with
    ⟨outcome, after⟩
  rw [hconnect] at hrefused
  obtain rfl : outcome = .failed k.fault := hrefused
  rw [← h] at hconnect
  exact congrArg Prod.fst (Step.bind_of_failed (onScene_of hconnect))

end

/-! ## Copies of a template -/

/-- Making a copy of a template heeds the calls, and a copy that is made is set up. -/
theorem openCopy_heeds (hc : c.Attentive ctx log) {template : Target (Audited σ) (Traced τ)}
    (h : template.connector = c.audited) (scene : Scene (Audited σ)) :
    (∀ target after, openCopy template ctx scene = (.done target, after) →
        Ready c ⟨target, after⟩) ∧
      ∃ events, Heeding c ctx scene events (openCopy template ctx scene).1
        (openCopy template ctx scene).2 := by
  have htemplate : (⟨template.template, scene⟩ : Site (Audited σ) (Traced τ)).target.connector =
      c.audited := h
  obtain ⟨hconnector, hready, events, htrail, htold⟩ := setup_heeds hc htemplate
  obtain ⟨-, more, hclosing, hmore⟩ := release_closes hc _ hconnector
  rw [openCopy]
  rcases hrun : setup ctx ⟨template.template, scene⟩ with ⟨value | fault | note, site⟩ <;>
    rw [hrun] at hready htrail htold hclosing
  · refine ⟨fun target after hopened => ?_, events, htrail, htold⟩
    obtain ⟨htarget, rfl⟩ := Prod.mk.inj hopened
    obtain rfl : site.target = target := Outcome.done.inj htarget
    exact hready rfl
  · exact ⟨(fun target after hopened => by cases hopened), events ++ more, htrail.append hclosing,
      htold.append_closings hmore⟩
  · exact ⟨(fun target after hopened => by cases hopened), events ++ more, htrail.append hclosing,
      htold.append_closings hmore⟩

theorem openCopy_of_ended (hc : c.Attentive ctx log) {template : Target (Audited σ) (Traced τ)}
    (h : template.connector = c.audited) {scene : Scene (Audited σ)} {k : Cause}
    (hk : scene.contexts.ending? ctx = some k) :
    (openCopy template ctx scene).1 = .failed k.fault := by
  have hsetup : (setup ctx ⟨template.template, scene⟩).1 = .failed k.fault := setup_of_ended hc h hk
  rw [openCopy]
  rcases hrun : setup ctx ⟨template.template, scene⟩ with ⟨outcome, site⟩
  rw [hrun] at hsetup
  obtain rfl : outcome = .failed k.fault := hsetup
  rfl

end Target

end PgVitals

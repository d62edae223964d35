import PgVitals.Proofs.Collector.Builtin
import PgVitals.Proofs.Scrape.Isolation

/-!
# Scrapes release what they open

Every scrape sets up a copy of the template, runs the collectors on it and releases it.  However
these end, the sessions opened until the scrape is over are closed, each once.  So however many
scrapes there are, no session stays open, and none is closed twice.
-/

namespace PgVitals

variable {σ τ : Type} {c : Connector σ τ} {lost : List Nat}

/-! ## Copies of the template -/

/-- The scene is the plain one with a record of sessions that are all closed. -/
def Scene.Settled (s : Scene (Audited σ)) (s' : Scene σ) : Prop :=
  Accounts s.server.record [] ∧ s.Audits s'

theorem Scene.Settled.now_eq {s : Scene (Audited σ)} {s' : Scene σ} (h : s.Settled s') :
    s.contexts.now = s'.contexts.now :=
  congrArg (fun scene : Scene σ => scene.contexts.now) h.2

theorem Target.release_settled {site : Site (Audited σ) (Traced τ)} {site' : Site σ τ}
    (h : site.Sound c [] site') :
    (release site).1 = (release site').1 ∧
      (release site).2.scene.Settled (release site').2.scene := by
  obtain ⟨hended, hafter⟩ := release_lockstep site site' h.2
  have hreleased := (release_keeps site h.1).accounts
  rw [held_of_hold_eq_none (hold_release site)] at hreleased
  exact ⟨Outcome.related_eq_iff.1 hended, hreleased, hafter.scene⟩

/-- A copy was set up and holds all that is open, or it was not and nothing is open. -/
inductive Opened (c : Connector σ τ) : Outcome (Target (Audited σ) (Traced τ)) × Scene (Audited σ) →
    Outcome (Target σ τ) × Scene σ → Prop where
  | done {t t' s s'} (h : Site.Sound c [] ⟨t, s⟩ ⟨t', s'⟩) : Opened c (.done t, s) (.done t', s')
  | failed {s s'} (fault : Fault) (h : s.Settled s') :
    Opened c (.failed fault, s) (.failed fault, s')
  | crashed {s s'} (note : Option String) (h : s.Settled s') :
    Opened c (.crashed note, s) (.crashed note, s')

theorem Target.openCopy_opened {t : Target (Audited σ) (Traced τ)} {t' : Target σ τ}
    (ht : t.Audits c t') {s : Scene (Audited σ)} {s' : Scene σ} (hs : s.Settled s')
    (ctx : ContextId) : Opened c (openCopy t ctx s) (openCopy t' ctx s') := by
  have hstart : Site.Sound c [] ⟨t.template, s⟩ ⟨t'.template, s'⟩ := by
    refine ⟨⟨ht.connector_eq, fun traced htraced => ?_, hs.1⟩,
      ⟨ht.connector_eq, ht.connector_eq', ht.descriptor_eq, ht.statementTimeout_eq, rfl, rfl⟩, hs.2⟩
    cases htraced
  obtain ⟨hended, haudits⟩ := setup_lockstep ctx _ _ hstart.2
  have hsound : Site.Sound c [] (setup ctx ⟨t.template, s⟩).2 (setup ctx ⟨t'.template, s'⟩).2 :=
    ⟨setup_inOrder_of_not_held hstart.1 rfl ctx, haudits⟩
  rw [openCopy, openCopy]
  rcases hrun : setup ctx ⟨t.template, s⟩ with ⟨outcome, site⟩
  rcases hrun' : setup ctx ⟨t'.template, s'⟩ with ⟨outcome', site'⟩
  rw [hrun, hrun'] at hended hsound
  -- A target that is not handed on is dropped, and dropping it closes what it held.
  cases hended with
  | done hvalue => exact .done hsound
  | failed fault => exact .failed fault (release_settled hsound).2
  | crashed note => exact .crashed note (release_settled hsound).2

/-! ## Running the collectors -/

namespace Scraper

theorem timeOf_eq {site : Site (Audited σ) (Traced τ)} {site' : Site σ τ}
    (h : site.Sound c lost site') : timeOf site = timeOf site' :=
  congrArg (fun scene : Scene σ => scene.contexts.now) h.2.scene

theorem gather_sound {collectors : List (String × Collector (Audited σ) (Traced τ))}
    {collectors' : List (String × Collector σ τ)}
    (h : List.Forall₂ SoundUnder collectors collectors') (ctx : ContextId)
    {site : Site (Audited σ) (Traced τ)} {site' : Site σ τ} (hsite : site.Sound c lost site') :
    (gather ctx collectors [] site).verdicts = (gather ctx collectors' [] site').verdicts ∧
      (gather ctx collectors [] site).samples = (gather ctx collectors' [] site').samples ∧
      List.Forall₂ SoundUnder (gather ctx collectors [] site).collectors
        (gather ctx collectors' [] site').collectors ∧
      (gather ctx collectors [] site).site.Sound c lost (gather ctx collectors' [] site').site := by
  induction h generalizing site site' with
  | nil => exact ⟨rfl, rfl, .nil, hsite⟩
  | @cons p p' rest rest' hp hrest ih =>
    obtain ⟨name, collector⟩ := p
    obtain ⟨name', collector'⟩ := p'
    obtain ⟨rfl, hsound⟩ : name = name' ∧ collector.Sound collector' := hp
    obtain ⟨hended, hsamples, hcollector, hafter⟩ := hsound.run ctx hsite
    obtain ⟨hverdicts, hmore, hcollectors, hfinal⟩ := ih hafter
    simp only [gather_cons]
    rw [hended, hsamples, timeOf_eq hsite, timeOf_eq hafter]
    exact ⟨congrArg _ hverdicts, congrArg _ hmore, .cons ⟨rfl, hcollector⟩ hcollectors, hfinal⟩

/-- The same collectors, and the template under audit. -/
structure Sound (c : Connector σ τ) (s : Scraper (Audited σ) (Traced τ)) (s' : Scraper σ τ) :
    Prop where
  collectors : List.Forall₂ SoundUnder s.collectors s'.collectors
  template : s.template.Audits c s'.template

/-! ## Scrapes -/

theorem scrape_sound {s : Scraper (Audited σ) (Traced τ)} {s' : Scraper σ τ} (h : s.Sound c s')
    (ctx : ContextId) {scene : Scene (Audited σ)} {scene' : Scene σ}
    (hscene : scene.Settled scene') :
    (s.scrape ctx scene).1 = (s'.scrape ctx scene').1 ∧
      (s.scrape ctx scene).2.1 = (s'.scrape ctx scene').2.1 ∧
      (s.scrape ctx scene).2.2.1.Sound c (s'.scrape ctx scene').2.2.1 ∧
      (s.scrape ctx scene).2.2.2.Settled (s'.scrape ctx scene').2.2.2 := by
  have hopened := Target.openCopy_opened h.template hscene ctx
  rw [scrape, scrape]
  rcases hrun : Target.openCopy s.template ctx scene with ⟨outcome, after⟩
  rcases hrun' : Target.openCopy s'.template ctx scene' with ⟨outcome', after'⟩
  rw [hrun, hrun'] at hopened
  cases hopened with
  | failed fault hafter => exact ⟨rfl, rfl, h, hafter⟩
  | crashed note hafter => exact ⟨rfl, rfl, h, hafter⟩
  | @done t t' _ _ hsite =>
    obtain ⟨hverdicts, hsamples, hcollectors, hgathered⟩ := gather_sound h.collectors ctx hsite
    obtain ⟨hclosed, hsettled⟩ := Target.release_settled hgathered
    simp only [runOn]
    refine ⟨?_, hsamples, ⟨hcollectors, h.template⟩, hsettled⟩
    rw [hverdicts, hclosed, timeOf, timeOf, hsettled.now_eq, hscene.now_eq]

end Scraper

/-! ## Rounds -/

/-- What happens before a scrape, and the context of the scrape. -/
structure Round (σ : Type) where
  /-- Time passes, contexts are made and end, the server is used by others. -/
  meanwhile : Scene σ → Scene σ
  ctx : ContextId

def Round.audited (round : Round σ) : Round (Audited σ) :=
  ⟨Scene.meanwhile round.meanwhile, round.ctx⟩

namespace Scraper

/-- Scrapes one after the other. -/
def rounds : List (Round σ) → Scraper σ τ → Scene σ → Scraper σ τ × Scene σ
  | [], s, scene => (s, scene)
  | round :: rest, s, scene =>
    let ran := s.scrape round.ctx (round.meanwhile scene)
    rounds rest ran.2.2.1 ran.2.2.2

theorem rounds_sound {s : Scraper (Audited σ) (Traced τ)} {s' : Scraper σ τ} (h : s.Sound c s')
    {scene : Scene (Audited σ)} {scene' : Scene σ} (hscene : scene.Settled scene')
    (all : List (Round σ)) :
    (rounds (all.map Round.audited) s scene).1.Sound c (rounds all s' scene').1 ∧
      (rounds (all.map Round.audited) s scene).2.Settled (rounds all s' scene').2 := by
  induction all generalizing s s' scene scene' with
  | nil => exact ⟨h, hscene⟩
  | cons round rest ih =>
    have hmeanwhile : (Scene.meanwhile round.meanwhile scene).Settled (round.meanwhile scene') :=
      ⟨hscene.1, congrArg round.meanwhile hscene.2⟩
    obtain ⟨-, -, hafter, hsettled⟩ := scrape_sound h round.ctx hmeanwhile
    exact ih hafter hsettled

/-- A scraper of a catalogue has what the catalogue makes. -/
theorem made_of_ofCatalogue {catalogue : Catalogue (Collector σ τ)} {settings : Settings}
    {template : Target σ τ} {s : Scraper σ τ}
    (h : ofCatalogue catalogue settings template = .ok s) :
    ∃ made, catalogue.instantiate settings = .ok made ∧ s = ⟨made, template⟩ := by
  rw [ofCatalogue] at h
  cases hmade : catalogue.instantiate settings with
  | error fault =>
    rw [hmade] at h
    cases h
  | ok made =>
    rw [hmade] at h
    exact ⟨made, rfl, (Except.ok.inj h).symm⟩

theorem ofCatalogue_sound {draws : Draws} {settings : Settings} {template : Target σ τ}
    {s' : Scraper σ τ}
    (h : ofCatalogue (Catalogue.builtin draws) settings template = .ok s') :
    ∃ s, ofCatalogue (Catalogue.builtin draws) settings template.audited = .ok s ∧
      s.Sound template.connector s' := by
  obtain ⟨made', hmade', rfl⟩ := made_of_ofCatalogue h
  obtain ⟨made, hmade, hrelated⟩ := Catalogue.instantiate_sound hmade'
  refine ⟨⟨made, template.audited⟩, ?_, hrelated, template.audits_audited⟩
  rw [ofCatalogue, hmade]
  rfl

/-- **Scrapes release what they open.**  Whatever the settings, the server and the contexts do,
after any number of scrapes every session opened for them has been closed exactly once. -/
theorem rounds_close_all {draws : Draws} {settings : Settings} {template : Target σ τ}
    {scraper : Scraper σ τ}
    (h : ofCatalogue (Catalogue.builtin draws) settings template = .ok scraper)
    (scene : Scene σ) (all : List (Round σ)) :
    ∃ audited, ofCatalogue (Catalogue.builtin draws) settings template.audited = .ok audited ∧
      let ended := (rounds (all.map Round.audited) audited (scene.withRecord [])).2
      ended.Audits (rounds all scraper scene).2 ∧
        (∀ n, closings (.opened n) ended.server.record =
          if n < openings ended.server.record then 1 else 0) ∧
        closings .outside ended.server.record = 0 := by
  obtain ⟨audited, hmade, hsound⟩ := ofCatalogue_sound h
  have hstart : (scene.withRecord []).Settled scene := ⟨Accounts.nil, rfl⟩
  obtain ⟨-, haccounts, haudits⟩ := rounds_sound hsound hstart all
  exact ⟨audited, hmade, haudits, haccounts.closings_eq, haccounts.outside⟩

/-- Opens every session and answers every statement with one row of one column. -/
def obliging : Connector Unit Unit :=
  ⟨fun _ _ => pure (), fun _ _ _ => pure [⟨[some "PostgreSQL 16.4"]⟩], fun _ => pure ()⟩

/-- Two scrapes open four sessions, two of them for a database whose extensions cannot be read, and
close them. -/
theorem rounds_close_all_obliging :
    ∃ scraper audited,
      ofCatalogue (Catalogue.builtin (.ofWords #[])) {}
        (.unconfigured obliging (.keyValue ⟨[⟨"host", "h"⟩]⟩) 500) = .ok scraper ∧
      ofCatalogue (Catalogue.builtin (.ofWords #[])) {}
        (Target.unconfigured obliging (.keyValue ⟨[⟨"host", "h"⟩]⟩) 500).audited = .ok audited ∧
      openings (rounds [Round.audited ⟨id, 0⟩, Round.audited ⟨id, 0⟩] audited
        ((Scene.around () 0).withRecord [])).2.server.record = 4 ∧
      ∀ n, closings (.opened n) (rounds [Round.audited ⟨id, 0⟩, Round.audited ⟨id, 0⟩] audited
        ((Scene.around () 0).withRecord [])).2.server.record = if n < 4 then 1 else 0 := by
  obtain ⟨scraper, hscraper⟩ : ∃ scraper, ofCatalogue (Catalogue.builtin (.ofWords #[])) {}
      (.unconfigured obliging (.keyValue ⟨[⟨"host", "h"⟩]⟩) 500) = .ok scraper := ⟨_, rfl⟩
  obtain ⟨made, hmade, hcount⟩ : ∃ made, ofCatalogue (Catalogue.builtin (.ofWords #[])) {}
        (Target.unconfigured obliging (.keyValue ⟨[⟨"host", "h"⟩]⟩) 500).audited = .ok made ∧
      openings (rounds [Round.audited ⟨id, 0⟩, Round.audited ⟨id, 0⟩] made
        ((Scene.around () 0).withRecord [])).2.server.record = 4 :=
    ⟨_, rfl, by decide +kernel⟩
  obtain ⟨audited, haudited, -, hclosed, -⟩ :=
    rounds_close_all hscraper (Scene.around () 0) [⟨id, 0⟩, ⟨id, 0⟩]
  obtain rfl : made = audited := Except.ok.inj (hmade.symm.trans haudited)
  refine ⟨scraper, made, hscraper, hmade, hcount, fun n => ?_⟩
  rw [← hcount]
  exact hclosed n

end Scraper

end PgVitals

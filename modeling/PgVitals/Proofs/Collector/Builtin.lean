import PgVitals.Proofs.Catalogue
import PgVitals.Proofs.Collector.Anatomy

/-!
# The collectors under audit

The collectors that come with the program are written without regard to the server, so the settings
enable the same ones over any server, and these have the same text.  Under audit they therefore do
what they do without, and the sessions around them stay in order.
-/

namespace PgVitals

variable {σ τ σ' τ' : Type}

/-- The site is the plain one under audit, and the sessions it opened are in order. -/
def Site.Sound (c : Connector σ τ) (lost : List Nat) (site : Site (Audited σ) (Traced τ))
    (site' : Site σ τ) : Prop :=
  InOrder c lost site ∧ site.Audits c site'

section

variable {c : Connector σ τ} {lost : List Nat}

theorem Target.query_sound (ctx : ContextId) (sql : String) :
    Step.Lockstep (Site.Sound c lost) Eq (query ctx sql) (query ctx sql) :=
  (query_lockstep ctx sql).keeping (query_keeps ctx sql)

theorem Extensions.scanAll_sound (ctx : ContextId) (databases : List String) (known : Known) :
    Step.Lockstep (Site.Sound c lost) Eq (scanAll ctx databases known)
      (scanAll ctx databases known) :=
  (scanAll_lockstep ctx databases known).keeping (scanAll_keeps ctx databases known)

/-- A task does under audit what the task of the same text does without. -/
theorem Task.Matches.sound {α : Type} {ctx : ContextId} {task : Task (Audited σ) (Traced τ) α}
    {task' : Task σ τ α} (h : Matches ctx task task') :
    Task.Lockstep (Site.Sound c lost) Eq task task' :=
  h.lockstep (fun _ _ hsite => hsite.2.target.version_eq)
    (fun sql => Target.query_sound ctx sql)
    (fun databases known => Extensions.scanAll_sound ctx databases known)

end

/-! ## Collectors -/

/-- The collectors have the same text and the same place in their random sources. -/
structure Collector.Matches (collector : Collector σ τ) (collector' : Collector σ' τ') : Prop where
  draws_eq : collector.draws = collector'.draws
  update : ∀ ctx, Task.Matches ctx (collector.update ctx) (collector'.update ctx)

/-- The same collectors under the same names. -/
def MatchesUnder (p : String × Collector σ τ) (p' : String × Collector σ' τ') : Prop :=
  p.1 = p'.1 ∧ p.2.Matches p'.2

/-- The collector does under audit what the plain one does, and keeps the sessions in order. -/
structure Collector.Sound (collector : Collector (Audited σ) (Traced τ))
    (collector' : Collector σ τ) : Prop where
  draws_eq : collector.draws = collector'.draws
  update : ∀ c lost ctx,
    Task.Lockstep (Site.Sound c lost) Eq (collector.update ctx) (collector'.update ctx)

theorem Collector.Matches.sound {collector : Collector (Audited σ) (Traced τ)}
    {collector' : Collector σ τ} (h : collector.Matches collector') : collector.Sound collector' :=
  ⟨h.draws_eq, fun _ _ ctx => (h.update ctx).sound⟩

theorem Collector.Sound.run {collector : Collector (Audited σ) (Traced τ)}
    {collector' : Collector σ τ} (h : collector.Sound collector') {c : Connector σ τ}
    {lost : List Nat} (ctx : ContextId) {site : Site (Audited σ) (Traced τ)} {site' : Site σ τ}
    (hsite : site.Sound c lost site') :
    (collector.run ctx site).1 = (collector'.run ctx site').1 ∧
      (collector.run ctx site).2.1 = (collector'.run ctx site').2.1 ∧
      (collector.run ctx site).2.2.1.Sound (collector'.run ctx site').2.2.1 ∧
      (collector.run ctx site).2.2.2.Sound c lost (collector'.run ctx site').2.2.2 := by
  obtain ⟨hended, hsamples, hafter, hdraws⟩ := h.update c lost ctx
    { site with draws := collector.draws } { site' with draws := collector'.draws } hsite h.draws_eq
  exact ⟨Outcome.related_eq_iff.1 hended, hsamples, ⟨hdraws, h.update⟩, hafter⟩

/-- The same collectors under the same names, with and without audit. -/
def SoundUnder (p : String × Collector (Audited σ) (Traced τ)) (p' : String × Collector σ τ) :
    Prop :=
  p.1 = p'.1 ∧ p.2.Sound p'.2

/-! ## The catalogue -/

namespace Catalogue

variable {γ γ' : Type}

/-- What decides whether a collector runs. -/
def labels (c : Catalogue γ) : List (String × Bool) :=
  c.entries.map fun e => (e.name, e.onByDefault)

theorem labels_find? (c : Catalogue γ) (name : String) :
    c.labels.find? (fun p => p.1 = name) =
      (c.get? name).map fun e => (e.name, e.onByDefault) := by
  rw [labels, get?, List.find?_map]
  rfl

theorem isEnabled_congr {c : Catalogue γ} {c' : Catalogue γ'} (h : c.labels = c'.labels)
    (name : String) (settings : Settings) :
    c.isEnabled name settings = c'.isEnabled name settings := by
  have hdefault : (c.get? name).map Entry.onByDefault = (c'.get? name).map Entry.onByDefault := by
    have hfind := c.labels_find? name
    rw [h, c'.labels_find? name] at hfind
    have hsnd := congrArg (Option.map Prod.snd) hfind
    rw [Option.map_map, Option.map_map] at hsnd
    exact hsnd.symm
  rw [isEnabled, isEnabled, hdefault]

theorem validate_congr {c : Catalogue γ} {c' : Catalogue γ'} (h : c.labels = c'.labels)
    (settings : Settings) : c.validate settings = c'.validate settings := by
  have hnone : ∀ name, (c.get? name).isNone = (c'.get? name).isNone := by
    intro name
    have hfind := c.labels_find? name
    rw [h, c'.labels_find? name] at hfind
    have hisNone := congrArg Option.isNone hfind
    rw [Option.isNone_map, Option.isNone_map] at hisNone
    exact hisNone.symm
  have hnames : c.names = c'.names := by
    have hfst := congrArg (List.map Prod.fst) h
    rw [labels, labels, List.map_map, List.map_map] at hfst
    exact hfst
  simp only [validate, unknownName, hnone, hnames]

/-- The entries make collectors of the same text. -/
def EntryMatches (e : Entry (Collector σ τ)) (e' : Entry (Collector σ' τ')) : Prop :=
  e.name = e'.name ∧ ∀ settings collector', e'.make settings = .ok collector' →
    ∃ collector, e.make settings = .ok collector ∧ collector.Matches collector'

theorem makeEnabled_matches {c : Catalogue (Collector σ τ)} {c' : Catalogue (Collector σ' τ')}
    (hlabels : c.labels = c'.labels) {settings : Settings} {entries : List (Entry (Collector σ τ))}
    {entries' : List (Entry (Collector σ' τ'))} (h : List.Forall₂ EntryMatches entries entries')
    {made' : List (String × Collector σ' τ')}
    (hmade : c'.makeEnabled settings entries' = .ok made') :
    ∃ made, c.makeEnabled settings entries = .ok made ∧ List.Forall₂ MatchesUnder made made' := by
  induction h generalizing made' with
  | nil =>
    obtain rfl : [] = made' := Except.ok.inj hmade
    exact ⟨[], rfl, .nil⟩
  | @cons e e' entries entries' he hrest ih =>
    obtain ⟨hname, hmake⟩ := he
    rw [makeEnabled] at hmade ⊢
    rw [hname, isEnabled_congr hlabels]
    split at hmade
    · rename_i henabled
      rw [if_pos henabled]
      split at hmade
      · cases hmade
      · rename_i collector' hcollector'
        obtain ⟨collector, hcollector, hmatches⟩ := hmake settings collector' hcollector'
        rcases hmade' : c'.makeEnabled settings entries' with fault | more'
        · rw [hmade'] at hmade
          cases hmade
        · rw [hmade'] at hmade
          obtain rfl : (e'.name, collector') :: more' = made' := Except.ok.inj hmade
          obtain ⟨more, hmore, hrelated⟩ := ih hmade'
          refine ⟨(e'.name, collector) :: more, ?_, .cons ⟨rfl, hmatches⟩ hrelated⟩
          rw [hcollector, hmore]
          rfl
    · rename_i henabled
      rw [if_neg henabled]
      exact ih hmade

theorem builtin_labels (draws : Draws) :
    (builtin draws : Catalogue (Collector σ τ)).labels =
      (builtin draws : Catalogue (Collector σ' τ')).labels := rfl

theorem builtin_matches (draws : Draws) :
    List.Forall₂ EntryMatches (builtin draws : Catalogue (Collector σ τ)).entries
      (builtin draws : Catalogue (Collector σ' τ')).entries := by
  refine .cons ⟨rfl, ?_⟩ (.cons ⟨rfl, ?_⟩ (.cons ⟨rfl, ?_⟩ (.cons ⟨rfl, ?_⟩
    (.cons ⟨rfl, ?_⟩ .nil))))
  · rintro settings _ ⟨⟩
    exact ⟨_, rfl, rfl, Extensions.update_matches settings⟩
  · rintro settings _ ⟨⟩
    exact ⟨_, rfl, rfl, Superusers.update_matches settings⟩
  · rintro settings _ ⟨⟩
    exact ⟨_, rfl, rfl, Transactions.update_matches⟩
  · rintro settings _ ⟨⟩
    exact ⟨_, rfl, rfl, StandbySlots.update_matches⟩
  · rintro settings _ ⟨⟩
    exact ⟨_, rfl, rfl, BuildTimes.update_matches⟩

/-- The settings enable the same collectors over any two servers. -/
theorem instantiate_matches {draws : Draws} {settings : Settings}
    {made' : List (String × Collector σ' τ')}
    (h : (builtin draws : Catalogue (Collector σ' τ')).instantiate settings = .ok made') :
    ∃ made, (builtin draws : Catalogue (Collector σ τ)).instantiate settings = .ok made ∧
      List.Forall₂ MatchesUnder made made' := by
  have hvalidate : (builtin draws : Catalogue (Collector σ τ)).validate settings =
      (builtin draws : Catalogue (Collector σ' τ')).validate settings :=
    validate_congr (builtin_labels draws) settings
  rw [instantiate] at h ⊢
  rw [hvalidate]
  split at h
  · cases h
  · exact makeEnabled_matches (builtin_labels draws) (builtin_matches draws) h

/-- The collectors are written without regard to the server. -/
theorem matches_of_instantiate {draws : Draws} {settings : Settings}
    {made : List (String × Collector σ τ)}
    (h : (builtin draws : Catalogue (Collector σ τ)).instantiate settings = .ok made) :
    ∀ p ∈ made, p.2.Matches p.2 := by
  obtain ⟨made', hmade', hmatches⟩ := instantiate_matches (σ := σ) (τ := τ) h
  obtain rfl : made' = made := Except.ok.inj (hmade'.symm.trans h)
  exact fun p hp => (List.forall₂_same.1 hmatches p hp).2

/-- The collectors that the settings enable are made under audit as well. -/
theorem instantiate_sound {draws : Draws} {settings : Settings}
    {made' : List (String × Collector σ τ)}
    (h : (builtin draws : Catalogue (Collector σ τ)).instantiate settings = .ok made') :
    ∃ made, (builtin draws : Catalogue (Collector (Audited σ) (Traced τ))).instantiate settings =
        .ok made ∧ List.Forall₂ SoundUnder made made' := by
  obtain ⟨made, hmade, hmatches⟩ :=
    instantiate_matches (σ := Audited σ) (τ := Traced τ) h
  exact ⟨made, hmade, hmatches.imp fun _ _ hp => ⟨hp.1, hp.2.sound⟩⟩

/-! ## What makes a collector -/

theorem builtin_nodup (draws : Draws) :
    ((builtin draws : Catalogue (Collector σ τ)).entries.map Entry.name).Nodup := by
  have hnames : (builtin draws : Catalogue (Collector σ τ)).entries.map Entry.name =
      [Extensions.subsystem, Superusers.subsystem, Transactions.subsystem, StandbySlots.subsystem,
        BuildTimes.subsystem] := rfl
  rw [hnames]
  decide

theorem collector_overrides (settings : Settings) (overrides : Dictionary Bool) (draws : Draws) :
    (Extensions.collector { settings with overrides := overrides } draws : Collector σ τ) =
      Extensions.collector settings draws := by
  have hread : ∀ rows, Extensions.readDatabases { settings with overrides := overrides } rows =
      Extensions.readDatabases settings rows := by
    intro rows
    induction rows with
    | nil => rfl
    | cons row rest ih =>
      simp only [Extensions.readDatabases, ih]
      rfl
  unfold Extensions.collector Extensions.update
  simp only [hread]

/-- Which collectors are switched on does not change how they are made. -/
theorem make_overrides (draws : Draws) (settings : Settings) (overrides : Dictionary Bool) :
    ∀ e ∈ (builtin draws : Catalogue (Collector σ τ)).entries,
      e.make { settings with overrides := overrides } = e.make settings := by
  have hextensions :
      (Except.ok (Extensions.collector { settings with overrides := overrides } draws) :
        Except Fault (Collector σ τ)) = .ok (Extensions.collector settings draws) := by
    rw [collector_overrides]
  refine List.forall_mem_cons.2 ⟨hextensions, List.forall_mem_cons.2 ⟨rfl, ?_⟩⟩
  exact List.forall_mem_cons.2 ⟨rfl, List.forall_mem_cons.2 ⟨rfl, List.forall_mem_singleton.2 rfl⟩⟩

/-- A collector is the same whichever others are switched on. -/
theorem made_eq {draws : Draws} {settings : Settings} {overrides : Dictionary Bool}
    {made made' : List (String × Collector σ τ)}
    (h : (builtin draws : Catalogue (Collector σ τ)).instantiate settings = .ok made)
    (h' : (builtin draws : Catalogue (Collector σ τ)).instantiate
      { settings with overrides := overrides } = .ok made') {name : String}
    {collector collector' : Collector σ τ} (hmem : (name, collector) ∈ made)
    (hmem' : (name, collector') ∈ made') : collector = collector' := by
  obtain ⟨e, he, hname, hmake⟩ := exists_entry_of_mem h hmem
  obtain ⟨e', he', hname', hmake'⟩ := exists_entry_of_mem h' hmem'
  obtain rfl : e = e' :=
    List.inj_on_of_nodup_map (builtin_nodup draws) he he' (hname.trans hname'.symm)
  rw [make_overrides draws settings overrides e he, hmake] at hmake'
  exact Except.ok.inj hmake'

end Catalogue

end PgVitals

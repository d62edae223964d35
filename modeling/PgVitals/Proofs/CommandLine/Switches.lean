import PgVitals.Proofs.Catalogue
import PgVitals.Proofs.CommandLine.Attached

/-!
# Which collectors run

Three things decide together which collectors run: the registrations, of which only the first under
a name counts; the switches on the command line, which may stand in any number and order and must
name what is registered; and the defaults of the entries without a switch.  A switch off wins over a
switch on.
-/

namespace PgVitals

variable {γ : Type}

namespace CommandLine

variable {r : Reading}

/-- A collector that a flag switches on or off. -/
structure Switch where
  /-- The name of the collector. -/
  collector : String
  /-- Whether it is switched on. -/
  on : Bool

namespace Switch

/-- The flag of the switch. -/
def flag (s : Switch) : Flag := if s.on then .enable else .disable

/-- The argument of the switch. -/
def argument (s : Switch) : String := s.flag.attached s.collector

/-- The collectors that the switches switch on, or off. -/
def named (on : Bool) (switches : List Switch) : List String :=
  (switches.filter (·.on == on)).map Switch.collector

/-- The options with the switches added behind those given before. -/
def note (switches : List Switch) (o : Options) : Options :=
  { o with
    enabled := o.enabled ++ named true switches
    disabled := o.disabled ++ named false switches }

theorem note_cons (s : Switch) (rest : List Switch) (o : Options) :
    note (s :: rest) o = note rest (note [s] o) := by
  obtain ⟨collector, on⟩ := s
  cases on <;> simp [note, named]

theorem apply_flag (s : Switch) (o : Options) : s.flag.apply s.collector o = .ok (note [s] o) := by
  obtain ⟨collector, on⟩ := s
  cases on <;> simp [flag, note, named, Flag.apply]

theorem mem_named_iff {on : Bool} {switches : List Switch} {name : String} :
    name ∈ named on switches ↔ ⟨name, on⟩ ∈ switches := by
  simp only [named, List.mem_map, List.mem_filter, beq_iff_eq]
  constructor
  · rintro ⟨⟨collector, on'⟩, ⟨hmem, rfl⟩, rfl⟩
    exact hmem
  · intro hmem
    exact ⟨_, ⟨hmem, rfl⟩, rfl⟩

end Switch

/-- A switch adds to the options and leaves nothing pending. -/
theorem argumentRead_switch (hended : r.ended = false) (hpending : r.pending = none) (s : Switch) :
    argumentRead r s.argument =
      .ok { r with options := Switch.note [s] r.options, seen := s.flag :: r.seen } := by
  have htakes : s.flag.takesValue = true := by
    cases hon : s.on <;> simp [Switch.flag, hon, Flag.takesValue]
  have hrepeatable : s.flag.isRepeatable = true := by
    cases hon : s.on <;> simp [Switch.flag, hon, Flag.isRepeatable]
  rw [Switch.argument, argumentRead_attached hended htakes]
  simp [flagRead, resolve, hpending, settle, hrepeatable, s.apply_flag, Except.map]

theorem argumentsRead_switches (hended : r.ended = false) (hpending : r.pending = none)
    (switches : List Switch) :
    ∃ r', argumentsRead r (switches.map Switch.argument) = .ok r' ∧
      r'.options = Switch.note switches r.options := by
  induction switches generalizing r with
  | nil =>
    refine ⟨r, ?_, by simp [Switch.note, Switch.named]⟩
    simp [argumentsRead, resolve, hpending]
  | cons s rest ih =>
    rw [List.map_cons, argumentsRead, argumentRead_switch hended hpending,
      Switch.note_cons s rest r.options]
    exact ih (r := { r with options := _, seen := _ }) hended hpending

/-- **Switches may stand in any number and order:** the collectors switched on and those switched
off are noted in the order of their flags. -/
theorem read_switches (switches : List Switch) :
    read (switches.map Switch.argument) = .ok (Switch.note switches {}) := by
  obtain ⟨r, hread, hoptions⟩ := argumentsRead_switches (r := .start) rfl rfl switches
  rw [read, hread]
  exact congrArg Except.ok hoptions

end CommandLine

/-! ## Overrides -/

theorem Settings.get?_foldl_switch (names : List String) (on : Bool) (s : Settings)
    (name : String) :
    (names.foldl (fun s name => s.switch name on) s).overrides.get? name =
      if name ∈ names then some on else s.overrides.get? name := by
  induction names generalizing s with
  | nil => rfl
  | cons first rest ih =>
    rw [List.foldl_cons, ih, Settings.switch, Dictionary.get?_insert]
    by_cases hrest : name ∈ rest
    · simp [hrest]
    · simp [hrest]

/-- A switch off wins over a switch on, wherever the two stand. -/
theorem Options.get?_overrides (o : Options) (name : String) :
    o.settings.overrides.get? name =
      if name ∈ o.disabled then some false else if name ∈ o.enabled then some true else none := by
  rw [Options.settings, Settings.get?_foldl_switch, Settings.get?_foldl_switch]
  rfl

theorem Options.mem_keys_overrides_iff (o : Options) (name : String) :
    name ∈ o.settings.overrides.keys ↔ name ∈ o.enabled ∨ name ∈ o.disabled := by
  rw [Dictionary.mem_keys_iff, o.get?_overrides]
  by_cases hoff : name ∈ o.disabled
  · simp [hoff]
  · by_cases hon : name ∈ o.enabled
    · simp [hoff, hon]
    · simp [hoff, hon]

theorem Options.isOn_iff (o : Options) (e : Entry γ) :
    e.isOn o.settings = true ↔
      e.name ∉ o.disabled ∧ (e.name ∈ o.enabled ∨ e.onByDefault = true) := by
  rw [Entry.isOn, o.get?_overrides]
  by_cases hoff : e.name ∈ o.disabled
  · simp [hoff]
  · by_cases hon : e.name ∈ o.enabled
    · simp [hoff, hon]
    · simp [hoff, hon]

namespace Catalogue

/-- How the flags of a command line decide what runs. -/
structure FollowsFlags (c : Catalogue γ) (o : Options) : Prop where
  /-- A flag for a name that is not listed is a fault of the configuration. -/
  unknown : ∀ name, name ∈ o.enabled ∨ name ∈ o.disabled → name ∉ c.names →
    ∃ detail, c.instantiate o.settings = .error (.configuration detail)
  /-- A listed collector runs unless it is switched off, if it is switched on or on by default. -/
  runs_iff : ∀ made, c.instantiate o.settings = .ok made → ∀ e ∈ c.entries,
    (e.name ∈ made.map Prod.fst ↔
      e.name ∉ o.disabled ∧ (e.name ∈ o.enabled ∨ e.onByDefault = true))

theorem followsFlags {c : Catalogue γ} (h : c.names.Nodup) (o : Options) : c.FollowsFlags o where
  unknown name hflag hname := by
    have hdecided := decidedBy h o.settings
    cases hmade : c.instantiate o.settings with
    | ok made =>
      have hknown := (hdecided.made_iff.1 ⟨made, hmade⟩).1
      exact absurd (hknown name ((o.mem_keys_overrides_iff name).2 hflag)) hname
    | error fault =>
      obtain ⟨detail, rfl⟩ := hdecided.fault fault hmade
      exact ⟨detail, rfl⟩
  runs_iff made hmade e he := by
    rw [← (decidedBy h o.settings).isEnabled_iff made hmade, isEnabled_of_mem h he, o.isOn_iff]

open CommandLine in
/-- **Registrations and switches decide what runs:** the catalogue lists the first registration of
each name; collectors are made just when every switch names an entry and every entry that is on
makes its collector, and then they are those of the entries that are on; and on the command line,
where switches may stand in any number and order, a switch off wins over a switch on. -/
theorem ofRegistrations_decides (registrations : List (Entry γ)) :
    (ofRegistrations registrations).ListsFirst registrations ∧
      (∀ settings : Settings, (ofRegistrations registrations).DecidedBy settings) ∧
        (∀ o : Options, (ofRegistrations registrations).FollowsFlags o) ∧
          ∀ switches : List Switch, ∃ o, read (switches.map Switch.argument) = .ok o ∧
            ∀ name, (name ∈ o.enabled ↔ ⟨name, true⟩ ∈ switches) ∧
              (name ∈ o.disabled ↔ ⟨name, false⟩ ∈ switches) := by
  have hlists := listsFirst_ofRegistrations registrations
  exact ⟨hlists, decidedBy hlists.nodup, followsFlags hlists.nodup, fun switches =>
    ⟨Switch.note switches {}, read_switches switches, fun _ =>
      ⟨Switch.mem_named_iff, Switch.mem_named_iff⟩⟩⟩

example :
    let c : Catalogue Nat :=
      ⟨[⟨"bgwriter", true, fun _ => .ok 1⟩, ⟨"locks", false, fun _ => .ok 2⟩]⟩
    let o : Options := { enabled := ["bgwriter", "locks"], disabled := ["bgwriter"] }
    c.instantiate o.settings = .ok [("locks", 2)] := rfl

end Catalogue

end PgVitals

import PgVitals.CommandLine.Reader

/-!
# What no argument names stays as it is

A flag is taken into account only when some argument names it.  An option that one flag decides, and
that no argument names, therefore has its default when the arguments have been read: every step of
the reading keeps it, since the flag is neither taken into account nor left pending.  This is shown
for flags that no letter stands for.
-/

namespace PgVitals

/-- The argument names the flag by its long name, alone or with a value attached. -/
def Flag.Names (f : Flag) (argument : String) : Prop :=
  argument = "--" ++ f.name ∨ ("--" ++ f.name ++ "=").toList <+: argument.toList

/-- Taking other flags into account keeps the property of the options. -/
def Flag.OthersKeep (f : Flag) (P : Options → Prop) : Prop :=
  ∀ g ≠ f, ∀ (value : String) (o o' : Options), g.apply value o = .ok o' → P o → P o'

namespace CommandLine

open Text

/-- The options have the property, and the flag is not still to be taken into account. -/
structure Reading.Spares (f : Flag) (P : Options → Prop) (r : Reading) : Prop where
  options : P r.options
  pending : ∀ value, r.pending ≠ some (f, value)

section

variable {f g : Flag} {P : Options → Prop} {r r' : Reading}

/-! ## Steps of the reading -/

theorem settle_spares (hP : f.OthersKeep P) (hr : r.Spares f P) (hg : g ≠ f)
    {value : Option String} (h : settle r g value = .ok r') : r'.Spares f P := by
  unfold settle at h
  split at h
  · cases h
  · split at h
    · cases h
    · cases hoptions : g.apply (value.getD "") r.options with
      | error refusal =>
        rw [hoptions] at h
        cases h
      | ok options =>
        rw [hoptions] at h
        cases h
        exact ⟨hP g hg _ _ _ hoptions hr.options, hr.pending⟩

theorem resolve_spares (hP : f.OthersKeep P) (hr : r.Spares f P) (h : resolve r = .ok r') :
    r'.Spares f P := by
  unfold resolve at h
  split at h
  · cases h
    exact hr
  · rename_i flag value hpending
    have hflag : flag ≠ f := by
      rintro rfl
      exact hr.pending value hpending
    have hnone : Reading.Spares f P { r with pending := none } := ⟨hr.options, by simp⟩
    exact settle_spares hP hnone hflag h

theorem flagRead_spares (hP : f.OthersKeep P) (hr : r.Spares f P) (hg : g ≠ f)
    {attached : Option String} (h : flagRead r g attached = .ok r') : r'.Spares f P := by
  unfold flagRead at h
  split at h
  · cases h
  · rename_i resolved hresolve
    have hresolved := resolve_spares hP hr hresolve
    split at h
    · cases h
      refine ⟨hresolved.options, fun value hpending => hg ?_⟩
      exact (Prod.mk.inj (Option.some.inj hpending)).1
    · exact settle_spares hP hresolved hg h

theorem longRead_spares (hP : f.OthersKeep P) (hr : r.Spares f P) {text : List Char}
    (htext : text ≠ f.name.toList) (hattached : ¬f.name.toList ++ ['='] <+: text)
    (h : longRead r text = .ok r') : r'.Spares f P := by
  have hother : ∀ name, Flag.ofName? name = some f → name = f.name.toList := by
    intro name hname
    simpa [eq_comm] using List.find?_some hname
  unfold longRead at h
  cases hcut : cutAt? '=' text with
  | none =>
    rw [hcut] at h
    dsimp only at h
    split at h
    · cases h
    · rename_i flag hname
      have hflag : flag ≠ f := by
        rintro rfl
        exact htext (hother _ hname)
      split at h
      · cases h
      · exact flagRead_spares hP hr hflag h
  | some parts =>
    obtain ⟨name, value⟩ := parts
    rw [hcut] at h
    dsimp only at h
    split at h
    · cases h
    · rename_i flag hname
      have hflag : flag ≠ f := by
        rintro rfl
        rw [(cutAt?_eq_some_iff.1 hcut).1, hother _ hname] at hattached
        exact hattached ⟨value, by simp⟩
      split at h
      · cases h
      · exact flagRead_spares hP hr hflag h

theorem lettersRead_spares (hP : f.OthersKeep P) (hletter : f.letter? = none) (hr : r.Spares f P)
    {letters : List Char} (h : lettersRead r letters = .ok r') : r'.Spares f P := by
  induction letters generalizing r with
  | nil =>
    cases h
    exact hr
  | cons letter rest ih =>
    rw [lettersRead] at h
    split at h
    · cases h
    · rename_i flag hflag
      -- The flag spared has no letter, so none of these is it.
      have hne : flag ≠ f := by
        rintro rfl
        have hfound := List.find?_some hflag
        simp [hletter] at hfound
      split at h
      · exact flagRead_spares hP hr hne h
      · split at h
        · cases h
        · rename_i middle hmiddle
          exact ih (flagRead_spares hP hr hne hmiddle) h

theorem valueRead_spares (hr : r.Spares f P) {value : String} (h : valueRead r value = .ok r') :
    r'.Spares f P := by
  unfold valueRead at h
  split at h
  · rename_i flag hpending
    cases h
    refine ⟨hr.options, fun value hvalue => ?_⟩
    obtain ⟨rfl, -⟩ := Prod.mk.inj (Option.some.inj hvalue)
    exact hr.pending none hpending
  · cases h

theorem argumentRead_spares (hP : f.OthersKeep P) (hletter : f.letter? = none) (hr : r.Spares f P)
    {argument : String} (hargument : ¬f.Names argument) (h : argumentRead r argument = .ok r') :
    r'.Spares f P := by
  obtain ⟨hlong, hattached⟩ := not_or.1 hargument
  unfold argumentRead at h
  split at h
  · cases h
  · split at h
    · cases h
      exact ⟨hr.options, hr.pending⟩
    -- An argument with two hyphens is the flag only if it is its name, or starts with it and an
    -- equals sign.
    · rename_i name _ hname
      refine longRead_spares hP hr ?_ ?_ h
      · rintro rfl
        apply hlong
        rw [← String.toList_inj, hname]
        simp [String.toList_append]
      · rintro ⟨tail, rfl⟩
        apply hattached
        rw [hname]
        exact ⟨tail, by simp [String.toList_append]⟩
    · split at h
      · exact valueRead_spares hr h
      · exact lettersRead_spares hP hletter hr h
    · exact valueRead_spares hr h

/-! ## Whole command lines -/

theorem argumentsRead_spares (hP : f.OthersKeep P) (hletter : f.letter? = none)
    (hr : r.Spares f P) {arguments : List String}
    (harguments : ∀ argument ∈ arguments, ¬f.Names argument)
    (h : argumentsRead r arguments = .ok r') : r'.Spares f P := by
  induction arguments generalizing r with
  | nil => exact resolve_spares hP hr h
  | cons argument rest ih =>
    obtain ⟨hargument, hrest⟩ := List.forall_mem_cons.1 harguments
    rw [argumentsRead] at h
    split at h
    · cases h
    · rename_i middle hmiddle
      exact ih (argumentRead_spares hP hletter hr hargument hmiddle) hrest h

/-- **A flag that no argument names is not taken into account:** what the other flags keep and the
defaults have, the options have. -/
theorem read_keeps (hP : f.OthersKeep P) (hletter : f.letter? = none) (hdefault : P {})
    {arguments : List String} (harguments : ∀ argument ∈ arguments, ¬f.Names argument)
    {o : Options} (h : read arguments = .ok o) : P o := by
  unfold read at h
  cases hread : argumentsRead .start arguments with
  | error refusal =>
    rw [hread] at h
    cases h
  | ok r =>
    rw [hread] at h
    cases h
    have hstart : Reading.start.Spares f P := ⟨hdefault, by simp [Reading.start]⟩
    exact (argumentsRead_spares hP hletter hstart harguments hread).options

end

/-- Only its own flag names a descriptor. -/
theorem othersKeep_dsn (dsn : Option String) : Flag.dsn.OthersKeep fun o => o.dsn = dsn := by
  intro flag hflag value o o' happly hdsn
  rw [← hdsn]
  have hmap : ∀ {α : Type} {x : Except Refusal α} {change : α → Options},
      (∀ a, (change a).dsn = o.dsn) → x.map change = .ok o' → o'.dsn = o.dsn := by
    intro α x change hchange hx
    cases x with
    | error refusal => cases hx
    | ok a =>
      cases hx
      exact hchange a
  cases flag with
  | dsn => exact absurd rfl hflag
  | interval | statementTimeout | scrapeTimeout | scanLimit | format =>
    rw [Flag.apply] at happly
    refine hmap ?_ happly
    exact fun _ => rfl
  | excluded | alwaysScanned | expectedSuperusers | enable | disable | once | verbose | quiet =>
    cases happly
    rfl
  | output =>
    rw [Flag.apply] at happly
    split at happly
    · cases happly
    · cases happly
      rfl
  | help | version => cases happly

/-- Without the flag there is no descriptor on the command line. -/
theorem dsn_eq_none_of_read {arguments : List String}
    (harguments : ∀ argument ∈ arguments, ¬Flag.dsn.Names argument) {o : Options}
    (h : read arguments = .ok o) : o.dsn = none :=
  read_keeps (othersKeep_dsn none) rfl rfl harguments h

end CommandLine

end PgVitals

import Mathlib.Data.List.Forall2
import Mathlib.Data.List.Induction
import Mathlib.Data.List.Nodup
import PgVitals.Catalogue
import PgVitals.Proofs.Dictionary
import PgVitals.Proofs.Steps

/-!
# What a catalogue makes

Of several registrations under a name a catalogue lists the first.  The settings may switch on and
off what is listed and nothing else.  Made are the collectors whose entries are on, in the order of
their registration, each by its entry, and a fault says that the configuration is wrong.
-/

namespace PgVitals

variable {γ : Type}

/-- Whether a collector is on: as its switch says, or by default if it has none. -/
def Entry.isOn (e : Entry γ) (settings : Settings) : Bool :=
  (settings.overrides.get? e.name).getD e.onByDefault

/-- The collector was made by the entry and stands under its name. -/
def Entry.Makes (settings : Settings) (e : Entry γ) (p : String × γ) : Prop :=
  e.name = p.1 ∧ e.make settings = .ok p.2

namespace Catalogue

/-! ## Registration -/

/-- The catalogue after a registration, which is left out if its name is taken. -/
def enrol (c : Catalogue γ) (e : Entry γ) : Catalogue γ :=
  match c.register e with
  | .ok grown => grown
  | .error _ => c

/-- The catalogue that registrations build. -/
def ofRegistrations (registrations : List (Entry γ)) : Catalogue γ :=
  registrations.foldl enrol empty

/-- The catalogue lists the first registration of each name and no other, in their order. -/
structure ListsFirst (c : Catalogue γ) (registrations : List (Entry γ)) : Prop where
  nodup : c.names.Nodup
  names_eq : c.names = (registrations.map Entry.name).eraseDups
  get?_eq : ∀ name, c.get? name = registrations.find? fun e => e.name = name

theorem enrol_of_taken {c : Catalogue γ} {e : Entry γ} (h : e.name ∈ c.names) : c.enrol e = c := by
  have htaken : c.entries.any (fun other => other.name = e.name) = true := by
    simpa [names] using h
  simp only [enrol, register, htaken, if_true]

theorem enrol_of_free {c : Catalogue γ} {e : Entry γ} (h : e.name ∉ c.names) :
    c.enrol e = ⟨c.entries ++ [e]⟩ := by
  have hfree : c.entries.any (fun other => other.name = e.name) = false := by
    simpa [names] using h
  simp only [enrol, register, hfree, Bool.false_eq_true, if_false]

theorem mem_names_iff {c : Catalogue γ} {name : String} :
    name ∈ c.names ↔ ∃ e, c.get? name = some e := by
  rw [← Option.isSome_iff_exists, get?, List.find?_isSome]
  simp [names]

/-- A registration keeps to what the catalogue is to list. -/
theorem ListsFirst.enrol {c : Catalogue γ} {registrations : List (Entry γ)}
    (h : c.ListsFirst registrations) (e : Entry γ) :
    (c.enrol e).ListsFirst (registrations ++ [e]) := by
  have hregistered : (∃ other ∈ registrations, other.name = e.name) ↔ e.name ∈ c.names := by
    rw [h.names_eq, List.mem_eraseDups, List.mem_map]
  -- A name that is taken changes nothing: the first registration of it is found before this one.
  by_cases htaken : e.name ∈ c.names
  · rw [enrol_of_taken htaken]
    refine ⟨h.nodup, ?_, fun name => ?_⟩
    · rw [h.names_eq, List.map_append, List.eraseDups_append]
      simp [List.removeAll, hregistered.2 htaken]
    · rw [List.find?_append, ← h.get?_eq]
      by_cases hname : e.name = name
      · obtain ⟨first, hfirst⟩ := mem_names_iff.1 (hname ▸ htaken)
        rw [hfirst]
        rfl
      · simp [hname]
  · have hnames : (⟨c.entries ++ [e]⟩ : Catalogue γ).names = c.names ++ [e.name] := by
      simp [names]
    rw [enrol_of_free htaken]
    refine ⟨?_, ?_, fun name => ?_⟩
    · rw [hnames]
      exact h.nodup.append (List.nodup_singleton e.name) (by simpa using htaken)
    · rw [hnames, h.names_eq, List.map_append, List.eraseDups_append]
      simp [List.removeAll, mt hregistered.1 htaken, List.eraseDups_cons]
    · rw [List.find?_append, ← h.get?_eq]
      exact List.find?_append

/-- Registering lists the first of each name. -/
theorem listsFirst_ofRegistrations (registrations : List (Entry γ)) :
    (ofRegistrations registrations).ListsFirst registrations := by
  induction registrations using List.reverseRecOn with
  | nil => exact ⟨List.nodup_nil, rfl, fun _ => rfl⟩
  | append_singleton registrations e ih =>
    rw [ofRegistrations, List.foldl_append]
    exact ih.enrol e

/-! ## Switches -/

theorem get?_of_mem {c : Catalogue γ} (h : c.names.Nodup) {e : Entry γ} (he : e ∈ c.entries) :
    c.get? e.name = some e := by
  obtain ⟨first, hfirst⟩ := mem_names_iff.1 (List.mem_map_of_mem (f := Entry.name) he)
  have hname : first.name = e.name := by simpa using List.find?_some hfirst
  rw [hfirst, List.inj_on_of_nodup_map h (List.mem_of_find?_eq_some hfirst) he hname]

theorem isEnabled_of_mem {c : Catalogue γ} (h : c.names.Nodup) {e : Entry γ} (he : e ∈ c.entries)
    (settings : Settings) : c.isEnabled e.name settings = e.isOn settings := by
  rw [isEnabled, get?_of_mem h he, Entry.isOn]
  cases settings.overrides.get? e.name <;> rfl

theorem validate_eq_ok_iff {c : Catalogue γ} {settings : Settings} :
    c.validate settings = .ok () ↔ ∀ name ∈ settings.overrides.keys, name ∈ c.names := by
  have hnone : ∀ name, (c.get? name).isNone = true ↔ name ∉ c.names := by
    intro name
    rw [mem_names_iff, ← Option.isSome_iff_exists]
    cases c.get? name <;> simp
  rw [validate]
  cases hunknown : settings.overrides.keys.find? fun name => (c.get? name).isNone with
  | none =>
    have hall := List.find?_eq_none.1 hunknown
    simp only [hnone, not_not] at hall
    simpa using hall
  | some name =>
    have hmem := List.mem_of_find?_eq_some hunknown
    have hnot : name ∉ c.names := (hnone name).1 (by simpa using List.find?_some hunknown)
    constructor
    · rintro ⟨⟩
    · intro hall
      exact absurd (hall name hmem) hnot

/-! ## Making -/

/-- **Making is exact:** the collectors made are those of the enabled entries, in their order, each
made by its entry. -/
theorem makeEnabled_eq_ok_iff {c : Catalogue γ} {settings : Settings} {entries : List (Entry γ)}
    {made : List (String × γ)} :
    c.makeEnabled settings entries = .ok made ↔
      List.Forall₂ (Entry.Makes settings) (entries.filter fun e => c.isEnabled e.name settings)
        made := by
  -- Along the entries, since the first constructor that fails hides those behind it.
  induction entries generalizing made with
  | nil => simp [makeEnabled, eq_comm]
  | cons e rest ih =>
    rw [makeEnabled, List.filter_cons]
    by_cases henabled : c.isEnabled e.name settings = true
    · rw [if_pos henabled, if_pos henabled, List.forall₂_cons_left_iff]
      cases hmake : e.make settings with
      | error fault =>
        simp [Entry.Makes, hmake]
      | ok collector =>
        simp only [Except.map_eq_ok_iff]
        constructor
        · rintro ⟨more, hmore, rfl⟩
          exact ⟨(e.name, collector), more, ⟨rfl, hmake⟩, ih.1 hmore, rfl⟩
        · rintro ⟨⟨name, collector'⟩, more, ⟨rfl, hcollector⟩, hmore, rfl⟩
          obtain rfl : collector = collector' := Except.ok.inj (hmake.symm.trans hcollector)
          exact ⟨more, ih.2 hmore, rfl⟩
    · rw [if_neg henabled, if_neg henabled, ih]

theorem makeEnabled_fault {c : Catalogue γ} {settings : Settings} {entries : List (Entry γ)}
    {fault : Fault} (h : c.makeEnabled settings entries = .error fault) :
    ∃ detail, fault = .configuration detail := by
  induction entries with
  | nil => cases h
  | cons e rest ih =>
    rw [makeEnabled] at h
    split at h
    · split at h
      · cases h
        exact ⟨_, rfl⟩
      · cases hrest : c.makeEnabled settings rest with
        | error other =>
          rw [hrest] at h
          cases h
          exact ih hrest
        | ok more =>
          rw [hrest] at h
          cases h
    · exact ih h

theorem instantiate_eq_ok_iff_validate {c : Catalogue γ} {settings : Settings}
    {made : List (String × γ)} :
    c.instantiate settings = .ok made ↔
      c.validate settings = .ok () ∧
        List.Forall₂ (Entry.Makes settings) (c.entries.filter fun e => c.isEnabled e.name settings)
          made := by
  rw [← makeEnabled_eq_ok_iff, instantiate]
  cases c.validate settings with
  | error fault => simp
  | ok _ => simp

theorem instantiate_eq_ok_iff {c : Catalogue γ} (h : c.names.Nodup) {settings : Settings}
    {made : List (String × γ)} :
    c.instantiate settings = .ok made ↔
      (∀ name ∈ settings.overrides.keys, name ∈ c.names) ∧
        List.Forall₂ (Entry.Makes settings) (c.entries.filter fun e => e.isOn settings) made := by
  have hon : (c.entries.filter fun e => c.isEnabled e.name settings) =
      c.entries.filter fun e => e.isOn settings :=
    List.filter_congr fun e he => isEnabled_of_mem h he settings
  rw [instantiate_eq_ok_iff_validate, validate_eq_ok_iff, hon]

/-- In a list beside another every member has a partner. -/
theorem exists_of_forall₂_of_mem {α β : Type} {R : α → β → Prop} {l : List α} {partners : List β}
    (h : List.Forall₂ R l partners) {b : β} (hb : b ∈ partners) : ∃ a ∈ l, R a b := by
  induction h with
  | nil => cases hb
  | @cons a _ _ _ hab _ ih =>
    obtain rfl | hb := List.mem_cons.1 hb
    · exact ⟨a, List.mem_cons_self, hab⟩
    · obtain ⟨other, hother, hmatch⟩ := ih hb
      exact ⟨other, List.mem_cons_of_mem a hother, hmatch⟩

/-- Some list stands beside another as soon as each of its members has a partner. -/
theorem exists_forall₂_iff {α β : Type} {R : α → β → Prop} {l : List α} :
    (∃ partners, List.Forall₂ R l partners) ↔ ∀ a ∈ l, ∃ b, R a b := by
  induction l with
  | nil => simp
  | cons a rest ih =>
    rw [List.forall_mem_cons, ← ih]
    constructor
    · rintro ⟨_, hall⟩
      obtain ⟨b, partners, hb, hrest, -⟩ := List.forall₂_cons_left_iff.1 hall
      exact ⟨⟨b, hb⟩, partners, hrest⟩
    · rintro ⟨⟨b, hb⟩, ⟨partners, hrest⟩⟩
      exact ⟨b :: partners, .cons hb hrest⟩

/-- Every collector was made by the entry of its name. -/
theorem exists_entry_of_mem {c : Catalogue γ} {settings : Settings} {made : List (String × γ)}
    (h : c.instantiate settings = .ok made) {p : String × γ} (hp : p ∈ made) :
    ∃ e ∈ c.entries, e.name = p.1 ∧ e.make settings = .ok p.2 := by
  have hmade := (instantiate_eq_ok_iff_validate.1 h).2
  obtain ⟨e, he, hmakes⟩ := exists_of_forall₂_of_mem hmade hp
  exact ⟨e, (List.mem_filter.1 he).1, hmakes⟩

/-- The names of what is made are those of the entries it is made by. -/
theorem names_of_makes {settings : Settings} {entries : List (Entry γ)} {made : List (String × γ)}
    (h : List.Forall₂ (Entry.Makes settings) entries made) :
    made.map Prod.fst = entries.map Entry.name := by
  induction h with
  | nil => rfl
  | cons hmakes _ ih => rw [List.map_cons, List.map_cons, ih, hmakes.1]

/-- Collectors are made under the names of the entries, each at most once. -/
theorem names_sublist {c : Catalogue γ} {settings : Settings} {made : List (String × γ)}
    (h : c.instantiate settings = .ok made) :
    (made.map Prod.fst).Sublist (c.entries.map Entry.name) := by
  rw [names_of_makes (instantiate_eq_ok_iff_validate.1 h).2]
  exact List.filter_sublist.map Entry.name

theorem instantiate_fault {c : Catalogue γ} {settings : Settings} {fault : Fault}
    (h : c.instantiate settings = .error fault) : ∃ detail, fault = .configuration detail := by
  rw [instantiate, validate] at h
  split at h
  · rename_i other hvalidate
    split at hvalidate
    · cases hvalidate
      cases h
      exact ⟨_, rfl⟩
    · cases hvalidate
  · exact makeEnabled_fault h

/-! ## Decisions -/

/-- How the settings decide what runs. -/
structure DecidedBy (c : Catalogue γ) (settings : Settings) : Prop where
  /-- An entry is enabled as its switch says, or by default. -/
  isEnabled_eq : ∀ e ∈ c.entries, c.isEnabled e.name settings = e.isOn settings
  /-- Collectors are made just when every switch names an entry and every entry that is on makes
  its collector. -/
  made_iff : (∃ made, c.instantiate settings = .ok made) ↔
    (∀ name ∈ settings.overrides.keys, name ∈ c.names) ∧
      ∀ e ∈ c.entries, e.isOn settings = true → ∃ collector, e.make settings = .ok collector
  /-- They are those of the entries that are on, in the order of the entries. -/
  made : ∀ made, c.instantiate settings = .ok made →
    List.Forall₂ (Entry.Makes settings) (c.entries.filter fun e => e.isOn settings) made
  /-- A name is enabled just when a collector was made under it, whether it is listed or not. -/
  isEnabled_iff : ∀ made, c.instantiate settings = .ok made →
    ∀ name, c.isEnabled name settings = true ↔ name ∈ made.map Prod.fst
  /-- Every fault is one of the configuration. -/
  fault : ∀ fault, c.instantiate settings = .error fault → ∃ detail, fault = .configuration detail

theorem decidedBy {c : Catalogue γ} (h : c.names.Nodup) (settings : Settings) :
    c.DecidedBy settings where
  isEnabled_eq _ he := isEnabled_of_mem h he settings
  made_iff := by
    simp only [instantiate_eq_ok_iff h, exists_and_left, exists_forall₂_iff, List.mem_filter,
      and_imp]
    simp [Entry.Makes]
  made made hmade := ((instantiate_eq_ok_iff h).1 hmade).2
  isEnabled_iff made hmade name := by
    obtain ⟨hknown, hmakes⟩ := (instantiate_eq_ok_iff h).1 hmade
    rw [names_of_makes hmakes, List.mem_map]
    constructor
    · intro henabled
      have hlisted : name ∈ c.names := by
        rw [isEnabled] at henabled
        cases hswitch : settings.overrides.get? name with
        | some on => exact hknown name ((settings.overrides.mem_keys_iff name).2 ⟨on, hswitch⟩)
        | none =>
          rw [hswitch] at henabled
          cases hget : c.get? name with
          | none => simp [hget] at henabled
          | some e => exact mem_names_iff.2 ⟨e, hget⟩
      obtain ⟨e, he, rfl⟩ := List.mem_map.1 hlisted
      rw [isEnabled_of_mem h he] at henabled
      exact ⟨e, List.mem_filter.2 ⟨he, henabled⟩, rfl⟩
    · rintro ⟨e, he, rfl⟩
      obtain ⟨he, hon⟩ := List.mem_filter.1 he
      rwa [isEnabled_of_mem h he]
  fault _ := instantiate_fault

end Catalogue

end PgVitals

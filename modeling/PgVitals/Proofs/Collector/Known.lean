import PgVitals.Proofs.Collector.Tour
import PgVitals.Proofs.Dictionary

/-!
# What a tour makes known

Rows of one database are noted in their order and databases in the order of the tour, each under the
name of the extension and over what was noted before.  So a name leads to the last database of the
tour that has it, and to the version in its last row there.
-/

namespace PgVitals

namespace Extensions

/-! ## One database -/

/-- No row is about the extension. -/
def Omits (found : List (String × String)) (name : String) : Prop := ∀ e ∈ found, e.1 ≠ name

/-- The last row about the extension has the version. -/
def LastRow (found : List (String × String)) (name version : String) : Prop :=
  ∃ earlier later, found = earlier ++ (name, version) :: later ∧ Omits later name

theorem omits_cons {e : String × String} {rest : List (String × String)} {name : String} :
    Omits (e :: rest) name ↔ e.1 ≠ name ∧ Omits rest name := List.forall_mem_cons

theorem lastRow_cons {e : String × String} {rest : List (String × String)}
    {name version : String} :
    LastRow (e :: rest) name version ↔
      LastRow rest name version ∨ e = (name, version) ∧ Omits rest name := by
  constructor
  · rintro ⟨_ | ⟨first, earlier⟩, later, hfound, homits⟩
    · obtain ⟨rfl, rfl⟩ := List.cons.inj hfound
      exact Or.inr ⟨rfl, homits⟩
    · obtain ⟨rfl, rfl⟩ := List.cons.inj hfound
      exact Or.inl ⟨earlier, later, rfl, homits⟩
  · rintro (⟨earlier, later, rfl, homits⟩ | ⟨rfl, homits⟩)
    · exact ⟨e :: earlier, later, rfl, homits⟩
    · exact ⟨[], rest, rfl, homits⟩

theorem not_lastRow_nil (name version : String) : ¬LastRow [] name version := by
  rintro ⟨earlier, later, hnil, -⟩
  simp at hnil

theorem get?_note (database : String) (found : List (String × String)) (known : Known)
    (name place version : String) :
    (note database found known).get? name = some (place, version) ↔
      (place = database ∧ LastRow found name version) ∨
        Omits found name ∧ known.get? name = some (place, version) := by
  -- The rows are noted from the first on, so what is known goes along.
  induction found generalizing known with
  | nil =>
    simp [note, Omits, not_lastRow_nil]
  | cons e rest ih =>
    have hstep : note database (e :: rest) known =
        note database rest (known.insert e.1 (database, e.2)) := rfl
    rw [hstep, ih, Dictionary.get?_insert, lastRow_cons, omits_cons]
    obtain ⟨key, value⟩ := e
    by_cases hname : name = key
    · subst hname
      rw [if_pos rfl]
      constructor
      · rintro (⟨hplace, hlast⟩ | ⟨homits, hvalue⟩)
        · exact Or.inl ⟨hplace, Or.inl hlast⟩
        · obtain ⟨rfl, rfl⟩ := Prod.mk.inj (Option.some.inj hvalue)
          exact Or.inl ⟨rfl, Or.inr ⟨rfl, homits⟩⟩
      · rintro (⟨hplace, hlast | ⟨he, homits⟩⟩ | ⟨⟨hne, -⟩, -⟩)
        · exact Or.inl ⟨hplace, hlast⟩
        · obtain ⟨-, rfl⟩ := Prod.mk.inj he
          exact Or.inr ⟨homits, by rw [hplace]⟩
        · exact absurd rfl hne
    · have hne : key ≠ name := fun h => hname h.symm
      have hpair : (key, value) ≠ (name, version) := fun h => hne (Prod.mk.inj h).1
      simp only [hname, hne, hpair, if_false, ne_eq, not_false_eq_true, true_and, false_and,
        or_false]

/-! ## A tour -/

/-- No visit of the tour found the extension. -/
def Unlisted (tour : List Visit) (name : String) : Prop :=
  ∀ v ∈ tour, ∀ found, v.found? = some found → Omits found name

/-- The database is the last of the tour that has the extension, and the version is in its last row
there. -/
def LastListed (tour : List Visit) (name database version : String) : Prop :=
  ∃ before v after, tour = before ++ v :: after ∧ v.database = database ∧
    (∃ found, v.found? = some found ∧ LastRow found name version) ∧ Unlisted after name

theorem unlisted_cons {v : Visit} {rest : List Visit} {name : String} :
    Unlisted (v :: rest) name ↔ Omits (v.found?.getD []) name ∧ Unlisted rest name := by
  have hhere : (∀ found, v.found? = some found → Omits found name) ↔
      Omits (v.found?.getD []) name := by
    cases v.found? <;> simp [Omits]
  rw [Unlisted, List.forall_mem_cons, hhere, Unlisted]

theorem lastListed_cons {v : Visit} {rest : List Visit} {name database version : String} :
    LastListed (v :: rest) name database version ↔
      LastListed rest name database version ∨
        (database = v.database ∧ LastRow (v.found?.getD []) name version) ∧ Unlisted rest name := by
  have hhere : (∃ found, v.found? = some found ∧ LastRow found name version) ↔
      LastRow (v.found?.getD []) name version := by
    cases v.found? <;> simp [not_lastRow_nil]
  constructor
  -- The last visit that lists the name is the first of the tour, or one of the rest.
  · rintro ⟨_ | ⟨first, before⟩, w, after, htour, hdatabase, hlast, hunlisted⟩
    · obtain ⟨rfl, rfl⟩ := List.cons.inj htour
      exact Or.inr ⟨⟨hdatabase.symm, hhere.1 hlast⟩, hunlisted⟩
    · obtain ⟨rfl, rfl⟩ := List.cons.inj htour
      exact Or.inl ⟨before, w, after, rfl, hdatabase, hlast, hunlisted⟩
  · rintro (⟨before, w, after, rfl, hdatabase, hlast, hunlisted⟩ | ⟨⟨rfl, hlast⟩, hunlisted⟩)
    · exact ⟨v :: before, w, after, rfl, hdatabase, hlast, hunlisted⟩
    · exact ⟨[], v, rest, rfl, rfl, hhere.2 hlast, hunlisted⟩

/-- What is known of an extension after a tour is what the tour listed last, or else what was known
before. -/
theorem get?_merge (tour : List Visit) (known : Known) (name database version : String) :
    (merge tour known).get? name = some (database, version) ↔
      LastListed tour name database version ∨
        Unlisted tour name ∧ known.get? name = some (database, version) := by
  induction tour generalizing known with
  | nil =>
    have hnone : ¬LastListed [] name database version := by
      rintro ⟨before, v, after, hnil, -⟩
      simp at hnil
    simp [merge, Unlisted, hnone]
  | cons v rest ih =>
    rw [merge_cons, ih, get?_note, lastListed_cons, unlisted_cons]
    constructor
    · rintro (hlater | ⟨hunlisted, hhere | ⟨homits, hknown⟩⟩)
      · exact Or.inl (Or.inl hlater)
      · exact Or.inl (Or.inr ⟨hhere, hunlisted⟩)
      · exact Or.inr ⟨⟨homits, hunlisted⟩, hknown⟩
    · rintro ((hlater | ⟨hhere, hunlisted⟩) | ⟨⟨homits, hunlisted⟩, hknown⟩)
      · exact Or.inl hlater
      · exact Or.inr ⟨hunlisted, Or.inl hhere⟩
      · exact Or.inr ⟨hunlisted, Or.inr ⟨homits, hknown⟩⟩

end Extensions

end PgVitals

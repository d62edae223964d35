import Mathlib.Data.List.Nodup
import PgVitals.Collector.Selection

/-!
# What is selected is eligible

A shuffle only changes the order, and taking names out of those pending takes each of them once.  So
a selection has no name that is not eligible, whatever names come first and whatever the random
source gives, and it has no name twice: with a positive limit never, without one as long as the
eligible names are distinct.
-/

namespace PgVitals

/-! ## Shuffling -/

namespace Draws

variable {α : Type}

theorem swapIfInBounds_perm (xs : Array α) (i j : Nat) : (xs.swapIfInBounds i j).Perm xs := by
  unfold Array.swapIfInBounds
  split
  · split
    · exact Array.swap_perm _ _
    · exact Array.Perm.rfl
  · exact Array.Perm.rfl

theorem shuffleFrom_perm (i : Nat) (xs : Array α) (d : Draws) : (shuffleFrom i xs d).1.Perm xs := by
  induction i generalizing xs d with
  | zero => exact Array.Perm.rfl
  | succ i ih => exact (ih _ _).trans (swapIfInBounds_perm _ _ _)

/-- A shuffle changes nothing but the order. -/
theorem shuffle_perm (xs : List α) (d : Draws) : (shuffle xs d).1.Perm xs :=
  (shuffleFrom_perm (xs.length - 1) xs.toArray d).toList

end Draws

namespace Selection

/-! ## Taking names -/

theorem mem_take_iff {names pending : List String} {name : String} :
    name ∈ (take names pending).1 ↔ name ∈ names ∧ name ∈ pending := by
  induction names generalizing pending with
  | nil => simp [take]
  | cons first rest ih =>
    rw [take]
    split
    · rename_i hfirst
      simp only [List.mem_cons, ih, List.mem_filter, decide_eq_true_eq]
      by_cases hname : name = first
      · simp [hname, hfirst]
      · simp [hname]
    · rename_i hfirst
      rw [ih, List.mem_cons]
      constructor
      · rintro ⟨hrest, hpending⟩
        exact ⟨Or.inr hrest, hpending⟩
      · rintro ⟨rfl | hrest, hpending⟩
        · exact absurd hpending hfirst
        · exact ⟨hrest, hpending⟩

/-- The names that are left are those that were not asked for. -/
theorem mem_left_iff {names pending : List String} {name : String} :
    name ∈ (take names pending).2 ↔ name ∈ pending ∧ name ∉ names := by
  induction names generalizing pending with
  | nil => simp [take]
  | cons first rest ih =>
    rw [take]
    split
    · simp only [ih, List.mem_filter, decide_eq_true_eq, List.mem_cons, not_or]
      tauto
    · rename_i hfirst
      rw [ih, List.mem_cons, not_or]
      constructor
      · rintro ⟨hpending, hrest⟩
        refine ⟨hpending, ?_, hrest⟩
        rintro rfl
        exact hfirst hpending
      · rintro ⟨hpending, -, hrest⟩
        exact ⟨hpending, hrest⟩

/-- No name is taken twice, also when it is asked for twice. -/
theorem nodup_take (names pending : List String) : (take names pending).1.Nodup := by
  induction names generalizing pending with
  | nil => exact List.nodup_nil
  | cons first rest ih =>
    rw [take]
    split
    · refine List.nodup_cons.2 ⟨?_, ih _⟩
      intro htaken
      obtain ⟨-, hpending⟩ := mem_take_iff.1 htaken
      simp at hpending
    · exact ih pending

/-! ## Selecting -/

section

variable {eligible first : List String} {limit : Int} {d : Draws}

/-- **What is selected is eligible,** whatever names come first. -/
theorem mem_eligible_of_select {name : String} (h : name ∈ (select eligible first limit d).1) :
    name ∈ eligible := by
  rw [select] at h
  split at h
  · exact h
  · obtain halways | hsample := List.mem_append.1 h
    · exact (mem_take_iff.1 halways).2
    · have hothers := (Draws.shuffle_perm _ d).mem_iff.1 (List.mem_of_mem_take hsample)
      exact (mem_take_iff.1 hothers).1

/-- **Nothing is selected twice** when the limit is positive or the eligible names are distinct. -/
theorem nodup_select (h : 0 < limit ∨ eligible.Nodup) :
    (select eligible first limit d).1.Nodup := by
  rw [select]
  split
  · rename_i hlimit
    exact h.resolve_left (by omega)
  · have hsample : (d.shuffle (take eligible (take first eligible).2).1).1.Nodup :=
      (Draws.shuffle_perm _ d).nodup_iff.2 (nodup_take eligible _)
    refine List.Nodup.append (nodup_take first eligible)
      (hsample.sublist (List.take_sublist _ _)) ?_
    intro name halways hother
    have hothers := (Draws.shuffle_perm _ d).mem_iff.1 (List.mem_of_mem_take hother)
    have hleft := (mem_left_iff.1 (mem_take_iff.1 hothers).2).2
    exact hleft (mem_take_iff.1 halways).1

end

end Selection

end PgVitals

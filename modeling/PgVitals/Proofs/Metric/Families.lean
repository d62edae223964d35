import Mathlib.Data.List.Basic
import Mathlib.Data.List.Induction
import Std.Data.HashMap.Lemmas
import PgVitals.Metric.Exposition

/-!
# Families of samples

The families are collected with an index of places.  While they grow, the index leads each name to
its own family and to no other one, so they are those that adding sample after sample to a plain
list gives.  What comes out has one family for each name, in the order in which the names first
occur, with the first sample of the name in front and all samples of the name, in order, as members.
-/

namespace PgVitals.Exposition

/-- The first sample of each name. -/
def heads : List Sample → List Sample
  | [] => []
  | s :: rest => s :: (heads rest).filter fun head => head.name ≠ s.name

/-- The samples of a name. -/
def members (samples : List Sample) (name : String) : List Sample :=
  samples.filter fun s => s.name = name

/-- Adds a sample to the family of its name, or as a new family after the others. -/
def addSample (families : List Family) (s : Sample) : List Family :=
  match families with
  | [] => [⟨s, [s]⟩]
  | f :: rest =>
    if f.head.name = s.name then { f with members := f.members ++ [s] } :: rest
    else f :: addSample rest s

variable {samples : List Sample} {name : String}

/-! ## Heads -/

theorem mem_of_mem_heads {head : Sample} (h : head ∈ heads samples) : head ∈ samples := by
  induction samples with
  | nil => exact h
  | cons s rest ih =>
    obtain rfl | h := List.mem_cons.1 h
    · exact List.mem_cons_self
    · exact List.mem_cons_of_mem s (ih (List.mem_of_mem_filter h))

/-- Every name has a head. -/
theorem mem_names_heads_iff :
    name ∈ (heads samples).map Sample.name ↔ name ∈ samples.map Sample.name := by
  constructor
  · intro h
    obtain ⟨head, hhead, rfl⟩ := List.mem_map.1 h
    exact List.mem_map_of_mem (mem_of_mem_heads hhead)
  · induction samples with
    | nil => exact id
    | cons s rest ih =>
      intro h
      by_cases hname : name = s.name
      · rw [hname]
        exact List.mem_map_of_mem List.mem_cons_self
      · have hrest : name ∈ rest.map Sample.name := by
          rw [List.map_cons] at h
          exact List.mem_of_ne_of_mem hname h
        obtain ⟨head, hhead, rfl⟩ := List.mem_map.1 (ih hrest)
        have hkept : head ∈ (heads rest).filter fun head => head.name ≠ s.name :=
          List.mem_filter.2 ⟨hhead, decide_eq_true hname⟩
        exact List.mem_map_of_mem (List.mem_cons_of_mem s hkept)

/-- No name has two heads. -/
theorem nodup_names_heads (samples : List Sample) : ((heads samples).map Sample.name).Nodup := by
  induction samples with
  | nil => exact List.nodup_nil
  | cons s rest ih =>
    rw [heads, List.map_cons, List.nodup_cons]
    constructor
    · intro h
      obtain ⟨head, hhead, hname⟩ := List.mem_map.1 h
      exact of_decide_eq_true (List.mem_filter.1 hhead).2 hname
    · exact ih.sublist (List.filter_sublist.map Sample.name)

/-- A sample at the end is a head if its name is new. -/
theorem heads_concat (samples : List Sample) (s : Sample) :
    heads (samples ++ [s]) =
      if s.name ∈ samples.map Sample.name then heads samples else heads samples ++ [s] := by
  induction samples with
  | nil => rfl
  | cons first rest ih =>
    -- `heads` works from the front, while a sample is added at the end.
    rw [List.cons_append, heads, ih, heads, List.map_cons]
    by_cases hrest : s.name ∈ rest.map Sample.name
    · rw [if_pos hrest, if_pos (List.mem_cons_of_mem _ hrest)]
    · rw [if_neg hrest, List.filter_append]
      by_cases hfirst : s.name = first.name
      · rw [if_pos (by rw [hfirst]; exact List.mem_cons_self)]
        simp [hfirst]
      · rw [if_neg (by simp [hfirst, hrest])]
        simp [hfirst]

/-! ## Adding samples -/

theorem members_concat (samples : List Sample) (s : Sample) (name : String) :
    members (samples ++ [s]) name = members samples name ++ if s.name = name then [s] else [] := by
  rw [members, List.filter_append, List.filter_singleton]
  simp [members]

theorem members_eq_nil (h : name ∉ samples.map Sample.name) : members samples name = [] := by
  refine List.filter_eq_nil_iff.2 fun s hs hname => h ?_
  rw [← of_decide_eq_true hname]
  exact List.mem_map_of_mem hs

/-- A sample of a new name is a family of its own. -/
theorem addSample_of_new {all : List Family} {s : Sample} (h : ∀ f ∈ all, f.head.name ≠ s.name) :
    addSample all s = all ++ [⟨s, [s]⟩] := by
  induction all with
  | nil => rfl
  | cons f rest ih =>
    obtain ⟨hf, hrest⟩ := List.forall_mem_cons.1 h
    rw [addSample, if_neg hf, ih hrest, List.cons_append]

/-- A sample of a known name goes to the one family of that name. -/
theorem addSample_of_known {firsts : List Sample} {s : Sample} {m : String → List Sample}
    (hnodup : (firsts.map Sample.name).Nodup) (h : s.name ∈ firsts.map Sample.name) :
    addSample (firsts.map fun head => ⟨head, m head.name⟩) s =
      firsts.map fun head => ⟨head, m head.name ++ if s.name = head.name then [s] else []⟩ := by
  induction firsts with
  | nil => cases h
  | cons first rest ih =>
    rw [List.map_cons, List.nodup_cons] at hnodup
    rw [List.map_cons, List.map_cons, addSample]
    by_cases hname : first.name = s.name
    · have hother : ∀ head ∈ rest, s.name ≠ head.name := by
        intro head hhead hsame
        rw [hname, hsame] at hnodup
        exact hnodup.1 (List.mem_map_of_mem hhead)
      rw [if_pos hname, if_pos hname.symm]
      refine congrArg _ (List.map_congr_left fun head hhead => ?_)
      rw [if_neg (hother head hhead), List.append_nil]
    · have hrest : s.name ∈ rest.map Sample.name := by
        rw [List.map_cons] at h
        exact List.mem_of_ne_of_mem (Ne.symm hname) h
      rw [if_neg hname, if_neg (Ne.symm hname), ih hnodup.2 hrest, List.append_nil]

/-! ## Collecting with an index -/

namespace Shelf

/-- The index leads to the family of each name, and a name without a place has no family. -/
def Indexed (shelf : Shelf) : Prop :=
  ∀ (name : String) (place : Nat), shelf.places[name]? = some place ↔
    (shelf.families.toList[place]?).map (fun f => f.head.name) = some name

/-- A sample goes to the place of its name if no other place bears the name. -/
theorem addSample_eq_modify {all : List Family} {s : Sample} {place : Nat}
    (h : ∀ i, (all[i]?).map (fun f => f.head.name) = some s.name ↔ i = place) :
    addSample all s = all.modify place fun f => { f with members := f.members ++ [s] } := by
  induction all generalizing place with
  | nil =>
    -- There is no place in an empty shelf, against the assumption that one holds the name.
    have hplace := (h place).2 rfl
    simp at hplace
  | cons f rest ih =>
    have hfirst := h 0
    rw [List.getElem?_cons_zero, Option.map_some, Option.some_inj] at hfirst
    rw [addSample]
    by_cases hname : f.head.name = s.name
    · rw [if_pos hname, ← hfirst.1 hname, List.modify_zero_cons]
    · obtain ⟨place, rfl⟩ : ∃ n, place = n + 1 :=
        Nat.exists_eq_succ_of_ne_zero fun hzero => hname (hfirst.2 hzero.symm)
      have hrest : ∀ i, (rest[i]?).map (fun f => f.head.name) = some s.name ↔ i = place := by
        intro i
        simpa using h (i + 1)
      rw [if_neg hname, ih hrest, List.modify_succ_cons]

/-- Adding a sample leads to the same families, and the index still leads to each of them. -/
theorem add_indexed {shelf : Shelf} (h : shelf.Indexed) (s : Sample) :
    (shelf.add s).families.toList = addSample shelf.families.toList s ∧ (shelf.add s).Indexed := by
  cases hplace : shelf.places[s.name]? with
  | some place =>
    have hadd : shelf.add s = { shelf with families := shelf.families.modify place fun f =>
        { f with members := f.members ++ [s] } } := by
      rw [add, hplace]
    have honly : ∀ i, (shelf.families.toList[i]?).map (fun f => f.head.name) = some s.name ↔
        i = place := by
      intro i
      rw [← h, hplace, Option.some_inj, eq_comm]
    rw [hadd, addSample_eq_modify honly]
    refine ⟨Array.toList_modify, fun name i => ?_⟩
    rw [h, Array.toList_modify, List.getElem?_modify]
    cases shelf.families.toList[i]? with
    | none => rfl
    | some f => by_cases hi : place = i <;> simp [hi]
  | none =>
    have hadd : shelf.add s =
        ⟨shelf.families.push ⟨s, [s]⟩, shelf.places.insert s.name shelf.families.size⟩ := by
      rw [add, hplace]
    have hnew : ∀ f ∈ shelf.families.toList, f.head.name ≠ s.name := by
      intro f hf hname
      obtain ⟨i, hi⟩ := List.mem_iff_getElem?.1 hf
      have hfound : shelf.places[s.name]? = some i := by
        rw [h, hi, Option.map_some, hname]
      rw [hplace] at hfound
      cases hfound
    rw [hadd, addSample_of_new hnew]
    refine ⟨Array.toList_push, fun name i => ?_⟩
    rw [Array.toList_push, Std.HashMap.getElem?_insert]
    have hold := h name i
    have hnone := h s.name i
    have hsize : shelf.families.toList.length = shelf.families.size := Array.length_toList
    rw [hplace] at hnone
    grind

theorem foldl_add {shelf : Shelf} (h : shelf.Indexed) (samples : List Sample) :
    (samples.foldl add shelf).families.toList = samples.foldl addSample shelf.families.toList ∧
      (samples.foldl add shelf).Indexed := by
  induction samples generalizing shelf with
  | nil => exact ⟨rfl, h⟩
  | cons s rest ih =>
    obtain ⟨hadded, hindexed⟩ := add_indexed h s
    rw [List.foldl_cons, List.foldl_cons, ← hadded]
    exact ih hindexed

theorem indexed_empty : Shelf.Indexed {} := by
  intro name place
  simp

end Shelf

/-- Collecting with an index comes to the plain definition. -/
theorem families_eq_foldl (samples : List Sample) : families samples = samples.foldl addSample [] :=
  (Shelf.foldl_add Shelf.indexed_empty samples).1

/-! ## The families of the samples -/

/-- The families, told at once. -/
theorem families_eq (samples : List Sample) :
    families samples = (heads samples).map fun head => ⟨head, members samples head.name⟩ := by
  rw [families_eq_foldl]
  -- The fold adds at the end, so the induction takes samples off there.
  induction samples using List.reverseRecOn with
  | nil => rfl
  | append_singleton samples s ih =>
    rw [List.foldl_append, ih, List.foldl_cons, List.foldl_nil, heads_concat]
    simp only [members_concat]
    by_cases hname : s.name ∈ samples.map Sample.name
    · rw [if_pos hname]
      exact addSample_of_known (nodup_names_heads samples) (mem_names_heads_iff.2 hname)
    · have hnew : ∀ head ∈ heads samples, head.name ≠ s.name := by
        intro head hhead hsame
        rw [← hsame] at hname
        exact hname (List.mem_map_of_mem (mem_of_mem_heads hhead))
      rw [if_neg hname, addSample_of_new (List.forall_mem_map.2 hnew), List.map_append,
        List.map_singleton, members_eq_nil hname, if_pos rfl, List.nil_append]
      refine congrArg (· ++ _) (List.map_congr_left fun head hhead => ?_)
      rw [if_neg (Ne.symm (hnew head hhead)), List.append_nil]

/-- The samples of some names that none bears twice are the samples, if they bear no other name. -/
theorem flatMap_members_perm {names : List String} (hnodup : names.Nodup)
    (h : ∀ s ∈ samples, s.name ∈ names) : (names.flatMap (members samples)).Perm samples := by
  induction names generalizing samples with
  | nil =>
    obtain rfl : samples = [] := List.eq_nil_iff_forall_not_mem.2 fun s hs => by simpa using h s hs
    exact .refl _
  | cons name rest ih =>
    obtain ⟨hname, hrest⟩ := List.nodup_cons.1 hnodup
    -- The first name takes its members, and the remaining names share out the samples left.
    let others := samples.filter fun s => !decide (s.name = name)
    have hothers : rest.flatMap (members samples) = rest.flatMap (members others) := by
      refine List.flatMap_congr fun other hother => ?_
      have hne : other ≠ name := fun heq => hname (heq ▸ hother)
      rw [members, members, List.filter_filter]
      refine List.filter_congr fun s _ => ?_
      by_cases hs : s.name = other <;> simp [hs, hne]
    have hperm : (rest.flatMap (members others)).Perm others := by
      refine ih hrest fun s hs => ?_
      obtain ⟨hs, hname⟩ := List.mem_filter.1 hs
      exact List.mem_of_ne_of_mem (by simpa using hname) (h s hs)
    rw [List.flatMap_cons, hothers]
    exact (hperm.append_left _).trans (List.filter_append_perm _ samples)

/-- Every sample is a member of one family. -/
theorem length_flatMap_members (samples : List Sample) :
    ((heads samples).flatMap fun head => members samples head.name).length = samples.length := by
  have hperm : (((heads samples).map Sample.name).flatMap (members samples)).Perm samples :=
    flatMap_members_perm (nodup_names_heads samples)
      fun s hs => mem_names_heads_iff.2 (List.mem_map_of_mem hs)
  rw [List.flatMap_map] at hperm
  exact hperm.length_eq

end PgVitals.Exposition

import Mathlib.Data.List.Perm.Subperm
import PgVitals.Proofs.Collector.Draws

/-!
# A selection and its sample

With a positive limit a selection has two parts: the eligible names that are always scanned, in the
order in which they are asked for, and a sample of the other eligible names that fills it up to the
limit.  Whatever the random source gives, the parts have these names and lengths.  Conversely, every
sequence of other names of the length that there is room for is drawn from some words, so no
database is left out for good.
-/

namespace PgVitals.Selection

variable {eligible first : List String} {limit : Int} {d : Draws}

/-! ## The two parts -/

/-- The eligible names that are always scanned, each at its first place among those asked for. -/
def always (eligible first : List String) : List String := (first.filter (· ∈ eligible)).eraseDups

/-- The eligible names that are not always scanned, each once. -/
def others (eligible first : List String) : List String :=
  (eligible.filter (· ∉ always eligible first)).eraseDups

theorem mem_always_iff {name : String} :
    name ∈ always eligible first ↔ name ∈ first ∧ name ∈ eligible := by
  simp [always, List.mem_eraseDups, List.mem_filter]

theorem mem_others_iff {name : String} :
    name ∈ others eligible first ↔ name ∈ eligible ∧ name ∉ first := by
  simp only [others, List.mem_eraseDups, List.mem_filter, mem_always_iff, decide_eq_true_eq]
  tauto

/-- Names are taken out in the order in which they are asked for, and what is left are the names
that were not asked for. -/
theorem take_eq (names pending : List String) :
    take names pending =
      ((names.filter (· ∈ pending)).eraseDups, pending.filter (· ∉ names)) := by
  induction names generalizing pending with
  | nil => simp [take]
  | cons name rest ih =>
    rw [take, ih, ih]
    split
    · rename_i hname
      have htaken : rest.filter (· ∈ pending.filter (· ≠ name)) =
          (rest.filter (· ∈ pending)).filter fun other => !other == name := by
        rw [List.filter_filter]
        refine List.filter_congr fun other _ => ?_
        rw [Bool.eq_iff_iff]
        simp [and_comm]
      have hleft : (pending.filter (· ≠ name)).filter (· ∉ rest) =
          pending.filter (· ∉ name :: rest) := by
        rw [List.filter_filter]
        exact List.filter_congr fun other _ => by simp [Bool.and_comm]
      rw [List.filter_cons_of_pos (by simpa using hname), List.eraseDups_cons, ← htaken, ← hleft]
    · rename_i hname
      rw [List.filter_cons_of_neg (by simpa using hname)]
      have hleft : pending.filter (· ∉ rest) = pending.filter (· ∉ name :: rest) := by
        refine List.filter_congr fun other hother => ?_
        have hne : other ≠ name := fun heq => hname (heq ▸ hother)
        simp [hne]
      rw [hleft]

theorem nodup_eraseDups (names : List String) : names.eraseDups.Nodup := by
  have htaken := nodup_take names names
  rwa [take_eq, List.filter_eq_self.2 fun name hname => decide_eq_true hname] at htaken

theorem nodup_others (eligible first : List String) : (others eligible first).Nodup :=
  nodup_eraseDups _

/-- The names taken second are those that are not taken first. -/
theorem take_left_eq_others (eligible first : List String) :
    (take eligible (eligible.filter (· ∉ first))).1 = others eligible first := by
  have hfilter : eligible.filter (· ∈ eligible.filter (· ∉ first)) =
      eligible.filter (· ∉ always eligible first) := by
    refine List.filter_congr fun name hname => ?_
    simp [mem_always_iff, hname]
  rw [take_eq, others, ← hfilter]

/-- **The two parts of a selection.** -/
theorem select_eq (hlimit : 0 < limit) :
    (select eligible first limit d).1 = always eligible first ++
      (d.shuffle (others eligible first)).1.take
        (limit.toNat - (always eligible first).length) := by
  rw [select, if_neg (by omega), take_eq first eligible, ← always]
  simp only [take_left_eq_others]

/-- Together the two parts are the eligible names, each once. -/
theorem always_append_others_perm (eligible first : List String) :
    (always eligible first ++ others eligible first).Perm eligible.eraseDups := by
  have hapart : (always eligible first).Disjoint (others eligible first) := by
    intro name halways hothers
    exact (mem_others_iff.1 hothers).2 (mem_always_iff.1 halways).1
  have hnodup : (always eligible first ++ others eligible first).Nodup :=
    List.Nodup.append (nodup_eraseDups _) (nodup_others _ _) hapart
  rw [List.perm_ext_iff_of_nodup hnodup (nodup_eraseDups eligible)]
  intro name
  rw [List.mem_append, mem_always_iff, mem_others_iff, List.mem_eraseDups]
  tauto

/-! ## Every selection -/

/-- What is selected with a positive limit. -/
structure IsSelection (eligible first : List String) (limit : Int) (selected : List String) :
    Prop where
  /-- Behind the names that are always scanned stands a sample of the others, without repetition,
  as long as the limit leaves room and there are others. -/
  parts : ∃ sample, selected = always eligible first ++ sample ∧ sample.Nodup ∧
    (∀ name ∈ sample, name ∈ others eligible first) ∧
    (sample.length : Int) =
      min ((others eligible first).length : Int) (max 0 (limit - (always eligible first).length))
  nodup : selected.Nodup
  mem_eligible : ∀ name ∈ selected, name ∈ eligible
  /-- A limit that admits all names leaves none out. -/
  complete : eligible.eraseDups.length ≤ limit → selected.Perm eligible.eraseDups
  /-- Only the names that are always scanned can exceed the limit. -/
  length : limit < selected.length → limit < (always eligible first).length

/-- **What is selected.**  For all names, every limit and every random source: without a positive
limit all eligible names in their order, and else a selection.  Where all words are refused in a
draw of the shuffle nothing is ever selected, and the statement speaks of the index that
`Draws.below` makes up. -/
theorem select_isSelection (eligible first : List String) (limit : Int) (d : Draws) :
    (limit ≤ 0 → (select eligible first limit d).1 = eligible) ∧
      (0 < limit → IsSelection eligible first limit (select eligible first limit d).1) := by
  constructor
  · intro hlimit
    rw [select, if_pos hlimit]
  · intro hlimit
    have hshuffle := Draws.shuffle_perm (others eligible first) d
    have hlength := hshuffle.length_eq
    refine ⟨⟨_, select_eq hlimit, ?_, fun name hname => ?_, ?_⟩, nodup_select (Or.inl hlimit),
      fun name => mem_eligible_of_select, fun hall => ?_, fun hlong => ?_⟩
    · exact (hshuffle.nodup_iff.2 (nodup_others _ _)).sublist (List.take_sublist _ _)
    · exact hshuffle.mem_iff.1 (List.mem_of_mem_take hname)
    · rw [List.length_take, hlength]
      omega
    · have hparts := (always_append_others_perm eligible first).length_eq
      rw [List.length_append] at hparts
      rw [select_eq hlimit, List.take_of_length_le (by omega)]
      exact (hshuffle.append_left _).trans (always_append_others_perm eligible first)
    · rw [select_eq hlimit, List.length_append, List.length_take, hlength] at hlong
      omega

/-- Repeated names, names that are not eligible, and room for one other name. -/
theorem select_isSelection_overlap :
    ((0 : Int) ≤ 0 →
      (select ["a", "b", "a", "c"] ["c", "x", "c"] 0 (Draws.ofWords #[7])).1 =
        ["a", "b", "a", "c"]) ∧
    ((0 : Int) < 2 → IsSelection ["a", "b", "a", "c"] ["c", "x", "c"] 2
      (select ["a", "b", "a", "c"] ["c", "x", "c"] 2 (Draws.ofWords #[7])).1) ∧
    always ["a", "b", "a", "c"] ["c", "x", "c"] = ["c"] ∧
    others ["a", "b", "a", "c"] ["c", "x", "c"] = ["a", "b"] := by
  refine ⟨(select_isSelection _ _ _ _).1, (select_isSelection _ _ _ _).2, ?_, ?_⟩ <;> decide +kernel

/-! ## Every sample -/

/-- **Every sample can be drawn.**  With fewer eligible names than there are words and a limit that
leaves room behind the names that are always scanned, every sequence of other names without
repetition that fills the room, or has them all, follows those names for some random words, each of
which is accepted when it is drawn. -/
theorem exists_words_select (hsize : eligible.length < UInt32.size)
    (hlimit : (always eligible first).length < limit) {sample : List String} (hnodup : sample.Nodup)
    (hothers : ∀ name ∈ sample, name ∈ others eligible first)
    (hlength : (sample.length : Int) =
      min (limit - (always eligible first).length) (others eligible first).length) :
    ∃ words, (select eligible first limit (Draws.ofWords words)).1 =
      always eligible first ++ sample := by
  have hfewer : (others eligible first).length ≤ eligible.length :=
    ((nodup_others eligible first).subperm fun _ h => (mem_others_iff.1 h).1).length_le
  have hperm : (others eligible first).Perm
      (sample ++ (others eligible first).filter (· ∉ sample)) := by
    have hrest : ((others eligible first).filter (· ∉ sample)).Nodup := (nodup_others _ _).filter _
    have hapart : sample.Disjoint ((others eligible first).filter (· ∉ sample)) := by
      intro name hname hother
      simp [hname] at hother
    rw [List.perm_ext_iff_of_nodup (nodup_others _ _) (hnodup.append hrest hapart)]
    intro name
    rw [List.mem_append, List.mem_filter, decide_eq_true_eq]
    have hname := hothers name
    tauto
  obtain ⟨words, hwords⟩ := Draws.exists_words_shuffle hperm (by omega)
  refine ⟨words, ?_⟩
  have hlengths := hperm.length_eq
  rw [List.length_append] at hlengths
  -- Either the sample fills the room, or there is no other name behind it.
  have hcut : ((others eligible first).filter (· ∉ sample)).take
      (limit.toNat - (always eligible first).length - sample.length) = [] := by
    apply List.eq_nil_of_length_eq_zero
    rw [List.length_take]
    omega
  rw [select_eq (by omega), hwords, List.take_append, List.take_of_length_le (by omega), hcut,
    List.append_nil]

/-- Four names, one of which is always scanned, and room for two of the other three. -/
theorem exists_words_select_pair :
    (["a", "b", "c", "d"] : List String).length < UInt32.size ∧
    ((always ["a", "b", "c", "d"] ["c"]).length : Int) < 3 ∧
    (["d", "a"] : List String).Nodup ∧
    (∀ name ∈ ["d", "a"], name ∈ others ["a", "b", "c", "d"] ["c"]) ∧
    ∃ words, (select ["a", "b", "c", "d"] ["c"] 3 (Draws.ofWords words)).1 = ["c", "d", "a"] := by
  have hsize : (["a", "b", "c", "d"] : List String).length < UInt32.size := by decide
  have hlimit : ((always ["a", "b", "c", "d"] ["c"]).length : Int) < 3 := by decide +kernel
  have hnodup : (["d", "a"] : List String).Nodup := by decide
  have hothers : ∀ name ∈ ["d", "a"], name ∈ others ["a", "b", "c", "d"] ["c"] := by
    decide +kernel
  obtain ⟨words, hwords⟩ := exists_words_select hsize hlimit hnodup hothers (by decide +kernel)
  refine ⟨hsize, hlimit, hnodup, hothers, words, ?_⟩
  rw [hwords]
  decide +kernel

end PgVitals.Selection

import Mathlib.Data.List.Basic
import PgVitals.Text.Cut

/-!
# What cutting finds

A run of characters of one kind ends where a character of another kind, or none, stands.  A cut at
a pattern finds its first occurrence, a cut at the last separator gives back a text whose second
part is free of it.  The parts of a split are free of the separator and, put together with the
separator between them, are the text that was split; two texts with a separator between them have
the parts of the one and then those of the other.
-/

namespace PgVitals.Text

/-! ## Runs -/

/-- A run is cut off where a character of another kind, or none, stands behind it. -/
theorem span_run {p : Char → Bool} {run rest : List Char} (hrun : ∀ c ∈ run, p c = true)
    (hrest : ∀ c ∈ rest.head?, p c = false) :
    (run ++ rest).takeWhile p = run ∧ (run ++ rest).dropWhile p = rest := by
  rw [List.takeWhile_append_of_pos hrun, List.dropWhile_append_of_pos hrun]
  cases rest with
  | nil => simp
  | cons c rest => simp [hrest c (by simp)]

/-- So a text starts with one such run only. -/
theorem run_inj {p : Char → Bool} {run rest run' rest' : List Char}
    (h : run ++ rest = run' ++ rest')
    (hrun : ∀ c ∈ run, p c = true) (hrest : ∀ c ∈ rest.head?, p c = false)
    (hrun' : ∀ c ∈ run', p c = true) (hrest' : ∀ c ∈ rest'.head?, p c = false) :
    run = run' ∧ rest = rest' := by
  obtain ⟨htake, hdrop⟩ := span_run hrun hrest
  obtain ⟨htake', hdrop'⟩ := span_run hrun' hrest'
  exact ⟨by rw [← htake, h, htake'], by rw [← hdrop, h, hdrop']⟩

/-! ## The first occurrence of a pattern -/

/-- What a cut at a pattern returns, put around the pattern, is the text; the first part is free of
the pattern. -/
theorem eq_append_of_cutAtText? {pattern cs before after : List Char} (hne : pattern ≠ [])
    (h : cutAtText? pattern cs = some (before, after)) :
    cs = before ++ (pattern ++ after) ∧ ¬pattern <:+: before := by
  induction cs generalizing before with
  | nil => simp [cutAtText?] at h
  | cons c rest ih =>
    rw [cutAtText?] at h
    split at h
    · rename_i hhere
      obtain ⟨tail, htail⟩ := List.isPrefixOf_iff_prefix.1 hhere
      obtain ⟨rfl, rfl⟩ : [] = before ∧ tail = after := by simpa [← htail] using h
      exact ⟨htail.symm, by simpa using hne⟩
    · rename_i hhere
      obtain ⟨⟨front, back⟩, hcut, hparts⟩ := Option.map_eq_some_iff.1 h
      obtain ⟨rfl, rfl⟩ : c :: front = before ∧ back = after := by simpa using hparts
      obtain ⟨rfl, hfree⟩ := ih hcut
      refine ⟨rfl, fun hinfix => ?_⟩
      -- The pattern would stand here, where it was not found, or further on in the part cut off.
      obtain hstart | hinner := List.infix_cons_iff.1 hinfix
      · rw [List.isPrefixOf_iff_prefix] at hhere
        exact hhere (hstart.trans (List.prefix_append (c :: front) _))
      · exact hfree hinner

/-! ## The last separator -/

/-- What a cut at the last separator returns, put around the separator, is the text; the second part
is free of the separator. -/
theorem cutLast?_eq_some_iff {sep : Char} {cs before after : List Char} :
    cutLast? sep cs = some (before, after) ↔ cs = before ++ sep :: after ∧ sep ∉ after := by
  -- Cutting at the last separator is cutting the reversed text at the first.
  have hreverse : cs.reverse = after.reverse ++ sep :: before.reverse ↔
      cs = before ++ sep :: after := by
    rw [List.reverse_eq_iff]
    simp
  rw [cutLast?, Option.map_eq_some_iff]
  constructor
  · rintro ⟨⟨back, front⟩, hcut, hparts⟩
    obtain ⟨rfl, rfl⟩ : front.reverse = before ∧ back.reverse = after := by simpa using hparts
    obtain ⟨hcs, hfree⟩ := cutAt?_eq_some_iff.1 hcut
    refine ⟨hreverse.1 (by simpa using hcs), by simpa using hfree⟩
  · rintro ⟨hcs, hfree⟩
    refine ⟨(after.reverse, before.reverse), cutAt?_eq_some_iff.2 ⟨hreverse.2 hcs, ?_⟩, by simp⟩
    simpa using hfree

/-! ## All separators -/

/-- Different texts have different parts. -/
theorem splitOn_injective (sep : Char) : Function.Injective (List.splitOn sep) :=
  Function.LeftInverse.injective fun _ => List.intercalate_splitOn sep

/-- No part holds the separator. -/
theorem notMem_of_mem_splitOn {sep : Char} {cs part : List Char} (h : part ∈ cs.splitOn sep) :
    sep ∉ part := by
  induction cs generalizing part with
  | nil =>
    obtain rfl : part = [] := by simpa using h
    exact List.not_mem_nil
  | cons c rest ih =>
    rw [List.splitOn_cons_eq_if_modifyHead] at h
    by_cases hsep : c = sep
    · rw [if_pos (by simpa using hsep)] at h
      obtain rfl | hrest := List.mem_cons.1 h
      · exact List.not_mem_nil
      · exact ih hrest
    · rw [if_neg (by simpa using hsep)] at h
      obtain ⟨first, parts, hparts⟩ := List.exists_cons_of_ne_nil (List.splitOn_ne_nil sep rest)
      rw [hparts, List.modifyHead_cons] at h
      rw [hparts] at ih
      obtain rfl | hrest := List.mem_cons.1 h
      · rw [List.mem_cons, not_or]
        exact ⟨Ne.symm hsep, ih List.mem_cons_self⟩
      · exact ih (List.mem_cons_of_mem first hrest)

/-- A tail without the separator belongs to the last part. -/
theorem splitOn_append {sep : Char} {tail : List Char} (htail : sep ∉ tail) (cs : List Char) :
    ∃ front last, cs.splitOn sep = front ++ [last] ∧
      (cs ++ tail).splitOn sep = front ++ [last ++ tail] := by
  induction cs with
  | nil =>
    refine ⟨[], [], rfl, ?_⟩
    rw [List.nil_append, List.splitOn_eq_singleton htail]
    rfl
  | cons c rest ih =>
    obtain ⟨front, last, hrest, hlonger⟩ := ih
    rw [List.cons_append, List.splitOn_cons_eq_if_modifyHead, List.splitOn_cons_eq_if_modifyHead,
      hrest, hlonger]
    by_cases h : c = sep
    · refine ⟨[] :: front, last, ?_, ?_⟩
      · rw [if_pos (by simpa using h), List.cons_append]
      · rw [if_pos (by simpa using h), List.cons_append]
    · rw [if_neg (by simpa using h), if_neg (by simpa using h)]
      cases front with
      | nil => exact ⟨[], c :: last, rfl, rfl⟩
      | cons part front => exact ⟨(c :: part) :: front, last, rfl, rfl⟩

end PgVitals.Text

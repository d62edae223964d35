import Mathlib.Data.List.TakeWhile
import PgVitals.Text.Blank

/-!
# Trimming leaves no blank at the ends

A text that neither starts nor ends with a blank is its own trimmed form, and what trimming
returns starts with no blank.  Readers of descriptors take a trimmed text, so these facts say
where a written descriptor starts and ends when it is read again.  Blanks put around a text are
trimmed off again, also when the text has none but blanks; and every text is its trimmed form with
blanks around it.
-/

namespace PgVitals.Text

/-- The text is empty or starts with a blank: a run of characters that are not blank ends
where such a text begins. -/
def StartsBlank (cs : List Char) : Prop := ∀ c ∈ cs.head?, isBlank c = true

@[simp] theorem startsBlank_nil : StartsBlank [] := by simp [StartsBlank]

theorem startsBlank_cons {c : Char} {cs : List Char} :
    StartsBlank (c :: cs) ↔ isBlank c = true := by simp [StartsBlank]

/-! ## The start -/

theorem trimStart_cons {c : Char} (h : isBlank c = false) (cs : List Char) :
    trimStart (c :: cs) = c :: cs := by
  rw [trimStart, List.dropWhile_cons_of_neg (by simp [h])]

/-- What is left after the blanks at the start starts with no blank. -/
theorem isBlank_of_mem_head?_trimStart {c : Char} {cs : List Char}
    (h : c ∈ (trimStart cs).head?) : isBlank c = false := by
  have hnot := List.head?_dropWhile_not isBlank cs
  rw [Option.mem_def, trimStart] at h
  rw [h] at hnot
  exact hnot

theorem trimStart_eq_self {cs : List Char} (h : ∀ c ∈ cs.head?, isBlank c = false) :
    trimStart cs = cs := by
  cases cs with
  | nil => rfl
  | cons c rest => exact trimStart_cons (h c (by simp)) rest

/-- A text starts with its blanks, and what is left is its trimmed form. -/
theorem exists_blanks (cs : List Char) :
    ∃ blanks, (∀ c ∈ blanks, isBlank c = true) ∧ cs = blanks ++ trimStart cs :=
  ⟨cs.takeWhile isBlank, fun _ => List.mem_takeWhile_imp,
    List.takeWhile_append_dropWhile.symm⟩

/-! ## Both ends -/

/-- Trimming at the end keeps a beginning of the text. -/
theorem trimEnd_prefix (cs : List Char) : trimEnd cs <+: cs := by
  have hsuffix : trimStart cs.reverse <:+ cs.reverse := List.dropWhile_suffix _
  rw [trimEnd]
  simpa using List.reverse_prefix.2 hsuffix

theorem isBlank_of_mem_head?_trim {c : Char} {cs : List Char} (h : c ∈ (trim cs).head?) :
    isBlank c = false := by
  obtain ⟨rest, hrest⟩ := trimEnd_prefix (trimStart cs)
  have hstart : c ∈ (trimStart cs).head? := by
    rw [trim] at h
    rw [← hrest, List.head?_append, Option.mem_def, Option.mem_def.1 h]
    rfl
  exact isBlank_of_mem_head?_trimStart hstart

theorem isBlank_of_mem_getLast?_trim {c : Char} {cs : List Char} (h : c ∈ (trim cs).getLast?) :
    isBlank c = false := by
  rw [trim, trimEnd, List.getLast?_reverse] at h
  exact isBlank_of_mem_head?_trimStart h

theorem trimEnd_eq_self {cs : List Char} (h : ∀ c ∈ cs.getLast?, isBlank c = false) :
    trimEnd cs = cs := by
  have hreverse : trimStart cs.reverse = cs.reverse := by
    apply trimStart_eq_self
    intro c hc
    rw [List.head?_reverse] at hc
    exact h c hc
  rw [trimEnd, hreverse, List.reverse_reverse]

/-- A text without a blank at either end is its own trimmed form. -/
theorem trim_eq_self {cs : List Char} (hhead : ∀ c ∈ cs.head?, isBlank c = false)
    (hlast : ∀ c ∈ cs.getLast?, isBlank c = false) : trim cs = cs := by
  rw [trim, trimStart_eq_self hhead, trimEnd_eq_self hlast]

/-- Trimming keeps a beginning that has no blank at either end. -/
theorem trim_append {front : List Char} (hne : front ≠ [])
    (hhead : ∀ c ∈ front.head?, isBlank c = false)
    (hlast : ∀ c ∈ front.getLast?, isBlank c = false) (cs : List Char) :
    trim (front ++ cs) = front ++ trimEnd cs := by
  have hstart : trimStart (front ++ cs) = front ++ cs := by
    obtain ⟨c, front, rfl⟩ := List.exists_cons_of_ne_nil hne
    exact trimStart_cons (hhead c rfl) (front ++ cs)
  -- From the end: `cs` may be blank throughout, and then the last character of `front` stops.
  have happend : trimStart (cs.reverse ++ front.reverse) =
      if (trimStart cs.reverse).isEmpty then trimStart front.reverse
      else trimStart cs.reverse ++ front.reverse := List.dropWhile_append
  rw [trim, hstart, trimEnd, List.reverse_append, happend, trimEnd]
  split
  · rename_i hempty
    rw [← trimEnd, trimEnd_eq_self hlast, List.isEmpty_iff.1 hempty, List.reverse_nil,
      List.append_nil]
  · rw [List.reverse_append, List.reverse_reverse]

/-! ## Blanks around a text -/

theorem trimStart_append {before : List Char} (h : ∀ c ∈ before, isBlank c = true)
    (cs : List Char) : trimStart (before ++ cs) = trimStart cs :=
  List.dropWhile_append_of_pos h

theorem trimEnd_append {after : List Char} (h : ∀ c ∈ after, isBlank c = true)
    (cs : List Char) : trimEnd (cs ++ after) = trimEnd cs := by
  have hreverse : ∀ c ∈ after.reverse, isBlank c = true := fun c hc => h c (List.mem_reverse.1 hc)
  rw [trimEnd, trimEnd, List.reverse_append, trimStart_append hreverse]

/-- **Blanks before and after a text do not change what trimming returns.** -/
theorem trim_append_append {before after : List Char} (hbefore : ∀ c ∈ before, isBlank c = true)
    (hafter : ∀ c ∈ after, isBlank c = true) (cs : List Char) :
    trim (before ++ cs ++ after) = trim cs := by
  have hstart : trimStart (before ++ cs ++ after) = trimStart (cs ++ after) := by
    rw [List.append_assoc, trimStart_append hbefore]
  have happend : trimStart (cs ++ after) =
      if (trimStart cs).isEmpty then trimStart after else trimStart cs ++ after :=
    List.dropWhile_append
  rw [trim, trim, hstart, happend]
  split
  · -- Nothing but blanks: both texts are trimmed to nothing.
    rename_i hempty
    have hnone : trimStart after = [] := List.dropWhile_eq_nil_iff.2 hafter
    rw [hnone, List.isEmpty_iff.1 hempty]
  · exact trimEnd_append hafter _

/-- A text is its trimmed form with blanks around it. -/
theorem exists_blanks_around (cs : List Char) :
    ∃ before after, (∀ c ∈ before, isBlank c = true) ∧ (∀ c ∈ after, isBlank c = true) ∧
      cs = before ++ trim cs ++ after := by
  obtain ⟨before, hbefore, hstart⟩ := exists_blanks cs
  obtain ⟨after, hafter, hend⟩ := exists_blanks (trimStart cs).reverse
  refine ⟨before, after.reverse, hbefore, fun c hc => hafter c (List.mem_reverse.1 hc), ?_⟩
  have hrest : trimStart cs = trim cs ++ after.reverse := by
    rw [trim, trimEnd, ← List.reverse_append, ← hend, List.reverse_reverse]
  rw [List.append_assoc, ← hrest]
  exact hstart

theorem mem_of_mem_trim {c : Char} {cs : List Char} (h : c ∈ trim cs) : c ∈ cs := by
  obtain ⟨before, after, -, -, hcs⟩ := exists_blanks_around cs
  rw [hcs]
  exact List.mem_append_left after (List.mem_append_right before h)

/-- Nothing is left of a text by trimming just when it has none but blanks. -/
theorem trim_eq_nil_iff {cs : List Char} : trim cs = [] ↔ ∀ c ∈ cs, isBlank c = true := by
  constructor
  · intro hnil
    obtain ⟨before, after, hbefore, hafter, hcs⟩ := exists_blanks_around cs
    rw [hnil, List.append_nil] at hcs
    rw [hcs, List.forall_mem_append]
    exact ⟨hbefore, hafter⟩
  · intro hblank
    have hnone : ∀ c ∈ ([] : List Char), isBlank c = true := fun c hc => nomatch hc
    have htrim : trim (cs ++ [] ++ []) = [] := trim_append_append hblank hnone []
    rwa [List.append_nil, List.append_nil] at htrim

end PgVitals.Text

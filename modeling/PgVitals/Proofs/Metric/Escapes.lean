import Mathlib.Data.List.Basic
import Mathlib.Tactic.SplitIfs
import PgVitals.Metric.Exposition

/-!
# Escapes and what undoes them

A text is escaped by replacing one character after another in all of it.  Because the backslash
comes first, no backslash that a later replacement puts there is doubled, and each character of the
text is escaped on its own: it stands for itself, or has become a backslash and a character behind
it.  This is what the two readers rely on, the one of a whole text and the one of a text in quotes,
which has to find the closing quote as well.
-/

namespace PgVitals.Exposition

/-! ## Readers -/

/-- What a backslash and the character behind it stand for. -/
def escaped? (c : Char) : Option Char :=
  if c = 'n' then some '\n' else if c = '\\' ∨ c = '"' then some c else none

/-- Undoes the escapes of a text. -/
def unescape? : List Char → Option (List Char)
  | [] => some []
  | [c] => if c = '\\' then none else some [c]
  | c :: d :: rest =>
    if c = '\\' then (escaped? d).bind fun e => (unescape? rest).map (e :: ·)
    else (unescape? (d :: rest)).map (c :: ·)

/-- Undoes the escapes of a text up to the quote that closes it; also what is behind the quote. -/
def readQuoted? : List Char → Option (List Char × List Char)
  | [] => none
  | [c] => if c = '"' then some ([], []) else none
  | c :: d :: rest =>
    if c = '"' then some ([], d :: rest)
    else if c = '\\' then
      (escaped? d).bind fun e => (readQuoted? rest).map fun (text, after) => (e :: text, after)
    else (readQuoted? (d :: rest)).map fun (text, after) => (c :: text, after)

section

variable {c d e : Char} {rest : List Char}

theorem unescape?_plain (h : c ≠ '\\') : unescape? (c :: rest) = (unescape? rest).map (c :: ·) := by
  cases rest with
  | nil =>
    have hlast : unescape? [c] = some [c] := if_neg h
    rw [hlast, unescape?, Option.map_some]
  | cons d rest => rw [unescape?, if_neg h]

theorem unescape?_escaped (h : escaped? d = some e) :
    unescape? ('\\' :: d :: rest) = (unescape? rest).map (e :: ·) := by
  rw [unescape?, if_pos rfl, h, Option.bind_some]

theorem readQuoted?_closing (rest : List Char) : readQuoted? ('"' :: rest) = some ([], rest) := by
  cases rest with
  | nil => rfl
  | cons d rest => rw [readQuoted?, if_pos rfl]

theorem readQuoted?_plain (hquote : c ≠ '"') (h : c ≠ '\\') :
    readQuoted? (c :: rest) = (readQuoted? rest).map fun (text, after) => (c :: text, after) := by
  cases rest with
  | nil =>
    have hlast : readQuoted? [c] = none := if_neg hquote
    rw [hlast, readQuoted?, Option.map_none]
  | cons d rest => rw [readQuoted?, if_neg hquote, if_neg h]

theorem readQuoted?_escaped (h : escaped? d = some e) :
    readQuoted? ('\\' :: d :: rest) =
      (readQuoted? rest).map fun (text, after) => (e :: text, after) := by
  rw [readQuoted?, if_neg (by decide), if_pos rfl, h, Option.bind_some]

/-- What is behind the quote is shorter. -/
theorem length_of_readQuoted? {cs text after : List Char}
    (h : readQuoted? cs = some (text, after)) : after.length < cs.length := by
  induction cs using readQuoted?.induct generalizing text with
  | case1 => cases h
  | case2 =>
    cases h
    exact Nat.zero_lt_one
  | case3 c hquote =>
    rw [readQuoted?, if_neg hquote] at h
    cases h
  | case4 d rest =>
    rw [readQuoted?_closing] at h
    cases h
    exact Nat.lt_succ_self _
  | case5 d rest _ ih =>
    rcases hd : escaped? d with _ | e
    · rw [readQuoted?, if_neg (by decide), if_pos rfl, hd] at h
      cases h
    · rw [readQuoted?_escaped hd] at h
      obtain ⟨⟨inner, after'⟩, hrest, hsame⟩ := Option.map_eq_some_iff.1 h
      cases hsame
      exact Nat.lt_succ_of_lt (Nat.lt_succ_of_lt (ih hrest))
  | case6 c d rest hquote hbackslash ih =>
    rw [readQuoted?_plain hquote hbackslash] at h
    obtain ⟨⟨inner, after'⟩, hrest, hsame⟩ := Option.map_eq_some_iff.1 h
    cases hsame
    exact Nat.lt_succ_of_lt (ih hrest)

end

/-! ## One character -/

/-- A character of a help text. -/
def escapeHelpChar (c : Char) : List Char :=
  if c = '\\' then ['\\', '\\'] else if c = '\n' then ['\\', 'n'] else [c]

/-- A character of a label value. -/
def escapeLabelChar (c : Char) : List Char :=
  if c = '\\' then ['\\', '\\'] else if c = '"' then ['\\', '"']
  else if c = '\n' then ['\\', 'n'] else [c]

/-- The escape of a character is a backslash and a character that stand for it, or the character,
unless that needs an escape. -/
inductive Escape (special : List Char) (c : Char) : List Char → Prop where
  | plain (h : c ∉ special) : Escape special c [c]
  | escaped {d : Char} (h : escaped? d = some c) : Escape special c ['\\', d]

theorem escape_escapeHelpChar (c : Char) : Escape ['\\', '\n'] c (escapeHelpChar c) := by
  unfold escapeHelpChar
  split_ifs with hbackslash hfeed
  · exact .escaped (by rw [hbackslash]; rfl)
  · exact .escaped (by rw [hfeed]; rfl)
  · exact .plain (by simp [hbackslash, hfeed])

theorem escape_escapeLabelChar (c : Char) : Escape ['\\', '\n', '"'] c (escapeLabelChar c) := by
  unfold escapeLabelChar
  split_ifs with hbackslash hquote hfeed
  · exact .escaped (by rw [hbackslash]; rfl)
  · exact .escaped (by rw [hquote]; rfl)
  · exact .escaped (by rw [hfeed]; rfl)
  · exact .plain (by simp [hquote, hbackslash, hfeed])

/-! ## Whole texts -/

theorem toList_escapeHelp (s : String) :
    (escapeHelp s).toList = s.toList.flatMap escapeHelpChar := by
  rw [escapeHelp, String.toList_ofList, replace, replace, List.flatMap_assoc]
  refine List.flatMap_congr fun c _ => ?_
  by_cases hbackslash : c = '\\'
  · rw [hbackslash]
    rfl
  · by_cases hfeed : c = '\n'
    · rw [hfeed]
      rfl
    · simp [escapeHelpChar, hbackslash, hfeed]

theorem toList_escapeLabel (s : String) :
    (escapeLabel s).toList = s.toList.flatMap escapeLabelChar := by
  rw [escapeLabel, String.toList_ofList, replace, replace, replace, List.flatMap_assoc,
    List.flatMap_assoc]
  refine List.flatMap_congr fun c _ => ?_
  by_cases hbackslash : c = '\\'
  · rw [hbackslash]
    rfl
  · by_cases hquote : c = '"'
    · rw [hquote]
      rfl
    · by_cases hfeed : c = '\n'
      · rw [hfeed]
        rfl
      · simp [escapeLabelChar, hbackslash, hquote, hfeed]

/-- No line feed is left. -/
theorem newline_notMem_flatMap {special : List Char} {escape : Char → List Char}
    (hspecial : '\n' ∈ special) (hescape : ∀ c, Escape special c (escape c)) (cs : List Char) :
    '\n' ∉ cs.flatMap escape := by
  intro h
  obtain ⟨c, -, hc⟩ := List.mem_flatMap.1 h
  have hescape := hescape c
  generalize escape c = written at hescape hc
  cases hescape with
  | plain hplain =>
    rw [List.mem_singleton] at hc
    rw [hc] at hspecial
    exact hplain hspecial
  | @escaped d hd =>
    obtain hc | hc := List.mem_cons.1 hc
    · cases hc
    · rw [← List.mem_singleton.1 hc] at hd
      cases hd

/-- Undoing the escapes of a help text gives it back. -/
theorem unescape?_flatMap (cs : List Char) : unescape? (cs.flatMap escapeHelpChar) = some cs := by
  induction cs with
  | nil => rfl
  | cons c rest ih =>
    rw [List.flatMap_cons]
    have hescape := escape_escapeHelpChar c
    generalize escapeHelpChar c = written at hescape ⊢
    cases hescape with
    | plain h =>
      have hbackslash : c ≠ '\\' := fun hc => h (hc ▸ List.mem_cons_self)
      rw [List.singleton_append, unescape?_plain hbackslash, ih, Option.map_some]
    | escaped h =>
      rw [List.cons_append, List.singleton_append, unescape?_escaped h, ih, Option.map_some]

/-- Reading a label value up to the quote behind it gives the value back. -/
theorem readQuoted?_flatMap (cs rest : List Char) :
    readQuoted? (cs.flatMap escapeLabelChar ++ '"' :: rest) = some (cs, rest) := by
  induction cs with
  | nil => exact readQuoted?_closing rest
  | cons c cs ih =>
    rw [List.flatMap_cons, List.append_assoc]
    have hescape := escape_escapeLabelChar c
    generalize escapeLabelChar c = written at hescape ⊢
    cases hescape with
    | plain h =>
      have hbackslash : c ≠ '\\' := fun hc => h (by rw [hc]; decide)
      have hquote : c ≠ '"' := fun hc => h (by rw [hc]; decide)
      rw [List.singleton_append, readQuoted?_plain hquote hbackslash, ih, Option.map_some]
    | escaped h =>
      rw [List.cons_append, List.singleton_append, readQuoted?_escaped h, ih, Option.map_some]

end PgVitals.Exposition

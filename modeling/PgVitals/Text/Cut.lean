/-!
# Cutting a text at a separator

`cutAt?` cuts at the first occurrence of a character, `cutLast?` at the last, `cutAtText?` at the
first occurrence of a pattern, and `dropStart?` behind a beginning. What cuts at every occurrence is
`List.splitOn`, which goes by the name `Text.splitOn` too.
-/

namespace PgVitals.Text

export List (splitOn)

/-- The parts before and after the first occurrence of a separator, if it occurs. -/
def cutAt? (sep : Char) : List Char → Option (List Char × List Char)
  | [] => none
  | c :: rest =>
    if c = sep then some ([], rest)
    else (cutAt? sep rest).map fun (before, after) => (c :: before, after)

/-- The parts before and after the last occurrence of a separator, if it occurs. -/
def cutLast? (sep : Char) (cs : List Char) : Option (List Char × List Char) :=
  (cutAt? sep cs.reverse).map fun (after, before) => (before.reverse, after.reverse)

/-- The parts before and after the first occurrence of a non-empty pattern, if it occurs. -/
def cutAtText? (pattern : List Char) : List Char → Option (List Char × List Char)
  | [] => none
  | c :: rest =>
    if pattern.isPrefixOf (c :: rest) then some ([], (c :: rest).drop pattern.length)
    else (cutAtText? pattern rest).map fun (before, after) => (c :: before, after)

/-- The rest of the text after a beginning, if it begins so. -/
def dropStart? : List Char → List Char → Option (List Char)
  | [], cs => some cs
  | _ :: _, [] => none
  | p :: start, c :: cs => if p = c then dropStart? start cs else none

theorem dropStart?_eq_some_iff {start cs rest : List Char} :
    dropStart? start cs = some rest ↔ cs = start ++ rest := by
  induction start generalizing cs with
  | nil => simp [dropStart?, eq_comm]
  | cons p start ih =>
    cases cs with
    | nil => simp [dropStart?]
    | cons c cs =>
      by_cases h : p = c
      · simp [dropStart?, h, ih]
      · simp [dropStart?, h, Ne.symm h]

/-- What a cut at the first separator returns, put around the separator, is the text; the first
part is free of the separator. -/
theorem cutAt?_eq_some_iff {sep : Char} {cs before after : List Char} :
    cutAt? sep cs = some (before, after) ↔ cs = before ++ sep :: after ∧ sep ∉ before := by
  induction cs generalizing before with
  | nil => simp [cutAt?]
  | cons c rest ih =>
    by_cases h : c = sep
    · subst h
      cases before with
      | nil => simp [cutAt?, eq_comm]
      | cons b before => simp +contextual [cutAt?]
    · cases before with
      | nil => simp [cutAt?, h]
      | cons b before =>
        simp only [cutAt?, if_neg h, Option.map_eq_some_iff, Prod.mk.injEq, List.cons.injEq,
          List.cons_append, List.mem_cons, not_or, Prod.exists]
        constructor
        · rintro ⟨x, y, hxy, ⟨rfl, rfl⟩, rfl⟩
          obtain ⟨rfl, hx⟩ := ih.1 hxy
          exact ⟨⟨rfl, rfl⟩, fun e => h e.symm, hx⟩
        · rintro ⟨⟨rfl, hr⟩, -, hb⟩
          exact ⟨before, after, ih.2 ⟨hr, hb⟩, ⟨rfl, rfl⟩, rfl⟩

theorem cutAt?_eq_none_iff {sep : Char} {cs : List Char} : cutAt? sep cs = none ↔ sep ∉ cs := by
  induction cs with
  | nil => simp [cutAt?]
  | cons c rest ih =>
    by_cases h : c = sep
    · simp [cutAt?, h]
    · simp [cutAt?, h, ih, Ne.symm h]

end PgVitals.Text

import Mathlib.Data.List.TakeWhile
import PgVitals.Descriptor.KeyValue
import PgVitals.Proofs.Text.Cut
import PgVitals.Proofs.Text.Trim

/-!
# Written values and the values they stand for

Reading takes a value off the front of a text: a quoted run up to its closing quote, or the run
of characters up to the first blank.  What it takes is a piece of the text, and the same piece is
taken again from any text that starts with it and goes on with a blank or not at all.  The second
half of the file says that the quoted form of a value stands for that value.
-/

namespace PgVitals

/-! ## What reading takes -/

namespace KeyValue

/-- Reading takes the whole text as one written value. -/
def IsRaw (raw : List Char) : Prop := readValue? raw = some (raw, [])

/-- What stands behind the opening quote of a value, up to and with the closing one. -/
inductive IsQuotedTail : List Char → Prop
  /-- The first quote that no backslash takes ends the value. -/
  | close : IsQuotedTail ['\'']
  /-- A backslash takes the next character with it. -/
  | escaped (c : Char) {cs : List Char} : IsQuotedTail cs → IsQuotedTail ('\\' :: c :: cs)
  /-- Any other character stands for itself. -/
  | plain {c : Char} {cs : List Char} : c ≠ '\'' → c ≠ '\\' → IsQuotedTail cs →
      IsQuotedTail (c :: cs)

theorem readQuoted?_plain {c : Char} (hquote : c ≠ '\'') (hslash : c ≠ '\\') (cs : List Char) :
    readQuoted? (c :: cs) = (readQuoted? cs).map fun found => (c :: found.1, found.2) := by
  rw [readQuoted?]
  all_goals simp_all

/-- A quoted run is taken whatever follows it. -/
theorem IsQuotedTail.readQuoted?_append {raw : List Char} (h : IsQuotedTail raw)
    (after : List Char) : readQuoted? (raw ++ after) = some (raw, after) := by
  induction h with
  | close => rfl
  | escaped c _ ih => simp only [List.cons_append, readQuoted?, ih, Option.map_some]
  | plain hquote hslash _ ih =>
    rw [List.cons_append, readQuoted?_plain hquote hslash, ih]
    rfl

/-- What is taken is a quoted run at the front of the text. -/
theorem readQuoted?_eq_some_iff {cs raw after : List Char} :
    readQuoted? cs = some (raw, after) ↔ cs = raw ++ after ∧ IsQuotedTail raw := by
  refine ⟨fun h => ?_, fun ⟨hcs, htail⟩ => hcs ▸ htail.readQuoted?_append after⟩
  fun_induction readQuoted? cs generalizing raw after with
  | case1 => simp at h
  | case2 => simp at h
  | case3 rest =>
    obtain ⟨rfl, rfl⟩ : ['\''] = raw ∧ rest = after := by simpa using h
    exact ⟨rfl, .close⟩
  | case4 c rest ih =>
    simp only [Option.map_eq_some_iff, Prod.mk.injEq, Prod.exists] at h
    obtain ⟨a, b, hab, rfl, rfl⟩ := h
    obtain ⟨rfl, htail⟩ := ih hab
    exact ⟨rfl, .escaped c htail⟩
  | case5 c rest hend hquote hescape ih =>
    simp only [Option.map_eq_some_iff, Prod.mk.injEq, Prod.exists] at h
    obtain ⟨a, b, hab, rfl, rfl⟩ := h
    obtain ⟨rfl, htail⟩ := ih hab
    refine ⟨rfl, .plain hquote ?_ htail⟩
    rintro rfl
    cases hrest : a ++ b with
    | nil => exact hend rfl hrest
    | cons d tail => exact hescape d tail rfl hrest

theorem IsQuotedTail.getLast? {raw : List Char} (h : IsQuotedTail raw) :
    raw.getLast? = some '\'' := by
  induction h with
  | close => rfl
  | escaped c _ ih => simp [List.getLast?_cons, ih]
  | plain _ _ _ ih => simp [List.getLast?_cons, ih]

theorem readValue?_eq_append {cs raw after : List Char}
    (h : readValue? cs = some (raw, after)) : cs = raw ++ after := by
  unfold readValue? at h
  split at h
  · simp only [Option.map_eq_some_iff, Prod.mk.injEq, Prod.exists] at h
    obtain ⟨a, b, hab, rfl, rfl⟩ := h
    rw [(readQuoted?_eq_some_iff.1 hab).1]
    rfl
  · obtain ⟨rfl, rfl⟩ : _ = raw ∧ _ = after := by simpa using h
    exact List.takeWhile_append_dropWhile.symm

/-- A run that starts with no quote is a written value when it has no blank. -/
theorem isRaw_of_plain {raw : List Char} (hquote : ∀ c ∈ raw.head?, c ≠ '\'')
    (hblank : ∀ c ∈ raw, Text.isBlank c = false) : IsRaw raw := by
  have htake : raw.takeWhile (!Text.isBlank ·) = raw :=
    List.takeWhile_eq_self_iff.2 fun c hc => by simp [hblank c hc]
  have hdrop : raw.dropWhile (!Text.isBlank ·) = [] :=
    List.dropWhile_eq_nil_iff.2 fun c hc => by simp [hblank c hc]
  rw [IsRaw, readValue?, htake, hdrop]
  rintro rest rfl
  exact hquote '\'' (by simp) rfl

theorem IsQuotedTail.isRaw {body : List Char} (h : IsQuotedTail body) : IsRaw ('\'' :: body) := by
  have hread := h.readQuoted?_append []
  rw [List.append_nil] at hread
  rw [IsRaw, readValue?, hread]
  rfl

/-- What reading takes is a written value. -/
theorem isRaw_of_readValue? {cs raw after : List Char}
    (h : readValue? cs = some (raw, after)) : IsRaw raw := by
  unfold readValue? at h
  split at h
  · simp only [Option.map_eq_some_iff, Prod.mk.injEq, Prod.exists] at h
    obtain ⟨a, b, hab, rfl, -⟩ := h
    exact (readQuoted?_eq_some_iff.1 hab).2.isRaw
  · rename_i hquote
    obtain ⟨rfl, -⟩ : _ = raw ∧ _ = after := by simpa using h
    apply isRaw_of_plain
    · rintro c hc rfl
      cases cs with
      | nil => simp at hc
      | cons d rest =>
        have hd : d = '\'' := by
          rw [List.takeWhile_cons] at hc
          split at hc
          · simpa using hc
          · simp at hc
        exact hquote rest (by rw [hd])
    · intro c hc
      simpa using List.mem_takeWhile_imp hc

/-- A written value is a quoted run, or a run without blanks that starts with no quote. -/
theorem IsRaw.cases {raw : List Char} (h : IsRaw raw) :
    (∃ body, raw = '\'' :: body ∧ IsQuotedTail body) ∨
      ((∀ c ∈ raw.head?, c ≠ '\'') ∧ ∀ c ∈ raw, Text.isBlank c = false) := by
  rw [IsRaw] at h
  unfold readValue? at h
  split at h
  · rename_i rest
    simp only [Option.map_eq_some_iff, Prod.mk.injEq, Prod.exists, List.cons.injEq,
      true_and] at h
    obtain ⟨body, after, hread, rfl, rfl⟩ := h
    exact Or.inl ⟨body, rfl, (readQuoted?_eq_some_iff.1 hread).2⟩
  · rename_i hquote
    obtain ⟨htake, -⟩ : raw.takeWhile (!Text.isBlank ·) = raw ∧ _ := by
      simpa only [Option.some.injEq, Prod.mk.injEq] using h
    refine Or.inr ⟨?_, fun c hc => ?_⟩
    · rintro c hc rfl
      obtain ⟨rest, rfl⟩ := List.head?_eq_some_iff.1 hc
      exact hquote rest rfl
    · simpa using List.takeWhile_eq_self_iff.1 htake c hc

/-- A written value is taken again from a text that starts with it, provided that a blank or
nothing follows. -/
theorem IsRaw.readValue?_append {raw rest : List Char} (h : IsRaw raw)
    (hrest : Text.StartsBlank rest) : readValue? (raw ++ rest) = some (raw, rest) := by
  obtain ⟨body, rfl, htail⟩ | ⟨hquote, hblank⟩ := h.cases
  · rw [List.cons_append, readValue?, htail.readQuoted?_append rest]
    rfl
  · have hraw : ∀ c ∈ raw, (!Text.isBlank c) = true := fun c hc => by simp [hblank c hc]
    have hstop : ∀ c ∈ rest.head?, (!Text.isBlank c) = false := fun c hc => by simp [hrest c hc]
    obtain ⟨htake, hdrop⟩ := Text.span_run hraw hstop
    rw [readValue?, htake, hdrop]
    rintro tail htail
    cases raw with
    | nil =>
      rw [List.nil_append] at htail
      rw [htail, Text.startsBlank_cons] at hrest
      exact absurd hrest (by decide)
    | cons c raw =>
      obtain ⟨rfl, -⟩ := List.cons.inj htail
      exact hquote '\'' (by simp) rfl

/-- A written value starts with no blank. -/
theorem IsRaw.isBlank_head? {raw : List Char} (h : IsRaw raw) {c : Char} (hc : c ∈ raw.head?) :
    Text.isBlank c = false := by
  obtain ⟨body, rfl, -⟩ | ⟨-, hblank⟩ := h.cases
  · obtain rfl : '\'' = c := by simpa using hc
    decide
  · exact hblank c (List.mem_of_mem_head? hc)

/-- A written value ends with no blank. -/
theorem IsRaw.isBlank_getLast? {raw : List Char} (h : IsRaw raw) {c : Char}
    (hc : c ∈ raw.getLast?) : Text.isBlank c = false := by
  obtain ⟨body, rfl, htail⟩ | ⟨-, hblank⟩ := h.cases
  · rw [List.getLast?_cons, htail.getLast?] at hc
    obtain rfl : '\'' = c := by simpa using hc
    decide
  · exact hblank c (List.mem_of_getLast? hc)

end KeyValue

/-! ## Quoting -/

namespace Value

open KeyValue

/-- A value is written between quotes, or as it is when it is not empty and has no character
that reading would not take as it is. -/
theorem quoteChars_cases (cs : List Char) :
    quoteChars cs = '\'' :: (cs.flatMap escapeChar ++ ['\'']) ∨
      quoteChars cs = cs ∧ cs ≠ [] ∧ ∀ c ∈ cs, Text.isBlank c = false ∧ c ≠ '\'' ∧ c ≠ '\\' := by
  unfold quoteChars
  split
  · exact Or.inl rfl
  · rename_i hplain
    exact Or.inr ⟨rfl, by simpa [needsQuotes, and_assoc] using hplain⟩

theorem quoteChars_ne_nil (cs : List Char) : quoteChars cs ≠ [] := by
  obtain hquoted | ⟨hplain, hne, -⟩ := quoteChars_cases cs
  · rw [hquoted]
    simp
  · rw [hplain]
    exact hne

theorem quote_ne_empty (s : String) : quote s ≠ "" := by
  rw [quote, ← String.toList_inj.ne, String.toList_ofList, String.toList_empty]
  exact quoteChars_ne_nil s.toList

theorem isQuotedTail_escape (cs : List Char) : IsQuotedTail (cs.flatMap escapeChar ++ ['\'']) := by
  induction cs with
  | nil => exact .close
  | cons c cs ih =>
    rw [List.flatMap_cons, List.append_assoc]
    by_cases h : c = '\'' ∨ c = '\\'
    · rw [escapeChar, if_pos h]
      exact .escaped c ih
    · obtain ⟨hquote, hslash⟩ := not_or.1 h
      rw [escapeChar, if_neg h]
      exact .plain hquote hslash ih

/-- The quoted form of a value is a written value. -/
theorem isRaw_quoteChars (cs : List Char) : IsRaw (quoteChars cs) := by
  obtain hquoted | ⟨hplain, -, hchars⟩ := quoteChars_cases cs
  · rw [hquoted]
    exact (isQuotedTail_escape cs).isRaw
  · rw [hplain]
    apply isRaw_of_plain
    · intro c hc
      exact (hchars c (List.mem_of_mem_head? hc)).2.1
    · intro c hc
      exact (hchars c hc).1

theorem unescape_cons {c : Char} (h : c ≠ '\\') (cs : List Char) :
    unescape (c :: cs) = c :: unescape cs := by
  rw [unescape]
  all_goals simp_all

theorem unescape_escape (cs : List Char) : unescape (cs.flatMap escapeChar) = cs := by
  induction cs with
  | nil => rfl
  | cons c cs ih =>
    rw [List.flatMap_cons]
    by_cases h : c = '\'' ∨ c = '\\'
    · simp only [escapeChar, if_pos h, List.cons_append, List.nil_append, unescape, ih]
    · obtain ⟨-, hslash⟩ := not_or.1 h
      simp only [escapeChar, if_neg h, List.cons_append, List.nil_append]
      rw [unescape_cons hslash, ih]

theorem inner?_quotes (body : List Char) : inner? ('\'' :: (body ++ ['\''])) = some body := by
  simp [inner?]

theorem inner?_plain {cs : List Char} (h : ∀ c ∈ cs, c ≠ '\'') : inner? cs = none := by
  unfold inner?
  split
  · exact absurd rfl (h '\'' List.mem_cons_self)
  · rfl

/-- The quoted form of a value stands for that value. -/
theorem unquote_quote (s : String) : unquote (quote s) = s := by
  obtain hquoted | ⟨hplain, -, hchars⟩ := quoteChars_cases s.toList
  · rw [unquote, quote, hquoted, String.toList_ofList, inner?_quotes]
    simp only [unescape_escape, String.ofList_toList]
  · rw [unquote, quote, hplain, String.ofList_toList, inner?_plain fun c hc => (hchars c hc).2.1]

/-- Different values have different quoted forms. -/
theorem quote_injective : Function.Injective quote :=
  Function.LeftInverse.injective unquote_quote

end Value

end PgVitals

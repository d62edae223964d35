import PgVitals.Proofs.Descriptor.Places
import PgVitals.Proofs.Descriptor.Refused

/-!
# What is read as pairs

A descriptor is read as pairs unless one of the two schemes of a URI starts it or what stands before
its first separator is the name of another scheme; the separator in a value, behind a character that
no name of a scheme has, changes nothing.  The texts that are then accepted are those that the
grammar of pairs derives.
-/

namespace PgVitals.Descriptor

open Text KeyValue

/-- The name of a scheme: an ASCII letter, then ASCII letters, digits, plus signs, points and
hyphens. -/
inductive IsScheme : List Char → Prop
  | letter {c : Char} {rest : List Char} : c.isAlpha = true →
      (∀ d ∈ rest, d.isAlphanum = true ∨ d = '+' ∨ d = '.' ∨ d = '-') → IsScheme (c :: rest)

theorem isSchemeName_iff {cs : List Char} : isSchemeName cs = true ↔ IsScheme cs := by
  constructor
  · intro h
    cases cs with
    | nil => cases h
    | cons c rest =>
      obtain ⟨hletter, hrest⟩ := Bool.and_eq_true_iff.1 h
      exact .letter hletter fun d hd => by simpa [or_assoc] using List.all_eq_true.1 hrest d hd
  · rintro ⟨hletter, hrest⟩
    rw [isSchemeName, hletter, Bool.true_and, List.all_eq_true]
    intro d hd
    simpa [or_assoc] using hrest d hd

/-- What stands before the first separator is the name of a scheme. -/
def NamesScheme (cs : List Char) : Prop :=
  ∃ front rest, cs = front ++ (separator ++ rest) ∧ ¬separator <:+: front ∧ IsScheme front

theorem schemeName?_eq_none_iff {cs : List Char} : schemeName? cs = none ↔ ¬NamesScheme cs := by
  constructor
  · rintro hnone ⟨front, rest, rfl, hfree, hscheme⟩
    rw [schemeName?_separator hfree, if_pos (isSchemeName_iff.2 hscheme)] at hnone
    cases hnone
  · intro hnames
    rw [schemeName?]
    split
    · rename_i front rest hcut
      obtain ⟨hcs, hfree⟩ := eq_append_of_cutAtText? (by simp) hcut
      exact if_neg fun hscheme => hnames ⟨front, rest, hcs, hfree, isSchemeName_iff.1 hscheme⟩
    · rfl

instance (cs : List Char) : Decidable (NamesScheme cs) :=
  decidable_of_iff (schemeName? cs ≠ none) (by rw [Ne, schemeName?_eq_none_iff, not_not])

/-- The reader of pairs never blames a scheme. -/
theorem not_isPairFault_scheme (name : String) :
    ¬IsPairFault (.invalidDescriptor ("unsupported URI scheme " ++ quoted name)) := by
  generalize hdetail : "unsupported URI scheme " ++ quoted name = detail
  -- The third letter already tells the messages apart.
  have hthird : detail.toList[2]? = some 's' := by
    rw [← hdetail]
    simp
  rintro ⟨key⟩ <;> simp at hthird

/-- A text goes to the reader of pairs exactly when it opens no URI and names no scheme. -/
theorem readTrimmed_eq_map_iff {cs : List Char} :
    readTrimmed cs = (KeyValue.read cs).map .keyValue ↔ OpensPairs cs := by
  refine ⟨fun hread => ?_, readTrimmed_of_opensPairs⟩
  -- A URI is no list of pairs, and the message that blames a scheme is none of their reader.
  obtain ⟨scheme, rest, -, huri⟩ | ⟨name, -, hname⟩ | ⟨hopens, -⟩ := readTrimmed_cases cs
  · rw [huri] at hread
    cases hpairs : KeyValue.read cs <;> simp [hpairs, Except.map] at hread
  · rw [hname] at hread
    cases hpairs : KeyValue.read cs with
    | error fault =>
      obtain rfl := by simpa [hpairs, Except.map] using hread
      exact absurd (readKeyValue_fault hpairs) (not_isPairFault_scheme _)
    | ok found => simp [hpairs, Except.map] at hread
  · exact hopens

theorem read_eq_readTrimmed {s : String} (h : trim s.toList ≠ []) :
    Descriptor.read s = readTrimmed (trim s.toList) := by
  unfold Descriptor.read
  split
  · contradiction
  · rfl

/-- **The reader of pairs accepts exactly its grammar,** returns the keys and raw values of the one
derivation in order, and looks at no place beyond the end of the text.  A trimmed text that is not
empty goes to that reader exactly when neither scheme of a URI starts it and what stands before its
first separator, if there is one, is no name of a scheme. -/
theorem read_grammar :
    (∀ (cs : List Char) (d : KeyValue), KeyValue.read cs = .ok d ↔
      ∃ tokens, Derives cs tokens ∧ d.pairs = tokens.map Token.pair) ∧
    (∀ (cs : List Char) (tokens tokens' : List Token),
      Derives cs tokens → Derives cs tokens' → tokens = tokens') ∧
    (∀ cs : List Char, Places.read? cs = some (KeyValue.read cs)) ∧
    ∀ s : String, trim s.toList ≠ [] →
      (Descriptor.read s = (KeyValue.read (trim s.toList)).map .keyValue ↔
        (∀ scheme : Scheme, ¬scheme.text.toList <+: trim s.toList) ∧
          ¬NamesScheme (trim s.toList)) := by
  refine ⟨fun cs d => ?_, fun cs tokens tokens' => derives_unique, Places.read?_eq,
    fun s hs => ?_⟩
  -- The three statements on lists of pairs are about any characters; only this one is about the
  -- text as it is given, blanks at its ends included.
  · rw [readKeyValue_eq_ok_iff, readPairs_eq_ok_iff]
    simp only [eq_comm]
  · rw [read_eq_readTrimmed hs, readTrimmed_eq_map_iff, ← schemeName?_eq_none_iff]
    exact ⟨fun h => ⟨h.not_prefix, h.schemeName?_eq⟩, fun h => ⟨h.1, h.2⟩⟩

/-- A quoted value with the next key at once behind it, a separator in a value and a value left
empty at the end; the same separator behind the name of a scheme. -/
theorem read_grammar_glued :
    (∃ tokens, Derives "a='x y'b = c://d e=".toList tokens ∧
      [⟨"a", "'x y'"⟩, ⟨"b", "c://d"⟩, ⟨"e", ""⟩] = tokens.map Token.pair) ∧
    Descriptor.read " a='x y'b = c://d e= " =
      .ok (.keyValue ⟨[⟨"a", "'x y'"⟩, ⟨"b", "c://d"⟩, ⟨"e", ""⟩]⟩) ∧
    Descriptor.read "c://d" ≠ (KeyValue.read "c://d".toList).map .keyValue := by
  obtain ⟨haccepts, -, -, hreaches⟩ := read_grammar
  have hread : KeyValue.read "a='x y'b = c://d e=".toList =
      .ok ⟨[⟨"a", "'x y'"⟩, ⟨"b", "c://d"⟩, ⟨"e", ""⟩]⟩ := by decide +kernel
  have htrim : trim " a='x y'b = c://d e= ".toList = "a='x y'b = c://d e=".toList := by
    decide +kernel
  refine ⟨(haccepts _ _).1 hread, ?_, fun hpairs => ?_⟩
  · rw [(hreaches _ (by decide +kernel)).2, htrim, hread]
    · rfl
    · refine ⟨fun scheme => ?_, by decide +kernel⟩
      cases scheme <;> decide +kernel
  · have hunread := ((hreaches "c://d" (by decide +kernel)).1 hpairs).2
    exact absurd hunread (by decide +kernel)

end PgVitals.Descriptor

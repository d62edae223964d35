import PgVitals.Proofs.Descriptor.Values

/-!
# Reading pairs and writing them

Reading a text of pairs gives pairs in written form: each key is a non-empty run of key
characters, each value is a written value, and a value left empty ends the text, since the blanks
behind an equals sign belong to it.  Conversely, the text that is written for pairs in that form
reads as exactly those pairs.
-/

namespace PgVitals

/-- A pair as reading finds it in a text. -/
structure Pair.IsWritten (p : Pair) : Prop where
  key_ne_nil : p.key.toList ≠ []
  isKeyChar : ∀ c ∈ p.key.toList, KeyValue.isKeyChar c = true
  isRaw : KeyValue.IsRaw p.raw.toList

namespace KeyValue

/-- Pairs as reading finds them in a text: behind a pair with an empty value there is none. -/
structure IsWritten (pairs : List Pair) : Prop where
  each : ∀ p ∈ pairs, p.IsWritten
  raw_ne : pairs.Pairwise fun p _ => p.raw ≠ ""

/-! ## Keys -/

theorem isKeyChar_iff {c : Char} : isKeyChar c = true ↔ c ≠ '=' ∧ Text.isBlank c = false := by
  simp [isKeyChar]

/-! ## One pair -/

/-- A value that is quoted makes a pair in written form, whatever the value is. -/
theorem isWritten_quote {key : String} (hne : key.toList ≠ [])
    (hkey : ∀ c ∈ key.toList, isKeyChar c = true) (value : String) :
    Pair.IsWritten ⟨key, Value.quote value⟩ := by
  refine ⟨hne, hkey, ?_⟩
  rw [Value.quote, String.toList_ofList]
  exact Value.isRaw_quoteChars value.toList

/-- What reading a pair finds: the key up to an equals sign or blank, the equals sign, and the
value behind it. -/
theorem readPair_eq_ok {cs after : List Char} {p : Pair} (h : readPair cs = .ok (p, after)) :
    ∃ gap rest, cs = p.key.toList ++ gap ∧ Text.trimStart gap = '=' :: rest ∧
      readValue? (Text.trimStart rest) = some (p.raw.toList, after) ∧
      p.key.toList ≠ [] ∧ ∀ c ∈ p.key.toList, isKeyChar c = true := by
  dsimp only [readPair] at h
  split at h
  · rename_i rest hkey hgap
    split at h
    · rename_i raw after' hvalue
      simp only [Except.ok.injEq, Prod.mk.injEq] at h
      obtain ⟨rfl, rfl⟩ := h
      refine ⟨cs.dropWhile isKeyChar, rest, ?_, hgap, ?_, ?_, fun c hc => ?_⟩
      · rw [String.toList_ofList, List.takeWhile_append_dropWhile]
      · rw [String.toList_ofList]
        exact hvalue
      · rw [String.toList_ofList, hkey]
        simp
      · rw [String.toList_ofList] at hc
        exact List.mem_takeWhile_imp hc
    · simp at h
  · simp at h

theorem isWritten_of_readPair {cs after : List Char} {p : Pair}
    (h : readPair cs = .ok (p, after)) : p.IsWritten := by
  obtain ⟨_, _, -, -, hvalue, hne, hkey⟩ := readPair_eq_ok h
  exact ⟨hne, hkey, isRaw_of_readValue? hvalue⟩

/-- A value is empty only at the end of the text. -/
theorem after_eq_nil_of_readPair {cs after : List Char} {p : Pair}
    (h : readPair cs = .ok (p, after)) (hraw : p.raw = "") : after = [] := by
  obtain ⟨_, rest, -, -, hvalue, -, -⟩ := readPair_eq_ok h
  have hsplit : Text.trimStart rest = after := by
    have hsplit := readValue?_eq_append hvalue
    rwa [hraw, String.toList_empty, List.nil_append] at hsplit
  rw [hsplit] at hvalue
  cases hafter : after with
  | nil => rfl
  | cons c tail =>
    have hhead : c ∈ (Text.trimStart rest).head? := by
      rw [hsplit, hafter]
      rfl
    have hblank := Text.isBlank_of_mem_head?_trimStart hhead
    rw [hafter, hraw, String.toList_empty] at hvalue
    unfold readValue? at hvalue
    split at hvalue
    · simp at hvalue
    · simp [hblank] at hvalue

theorem toList_text (p : Pair) : p.text.toList = p.key.toList ++ '=' :: p.raw.toList := by
  simp [Pair.text, String.toList_append]

/-- A written pair is read off a text that starts with it, provided that a blank or nothing
follows, and nothing if its value is empty. -/
theorem readPair_text {p : Pair} (h : p.IsWritten) {rest : List Char}
    (hrest : Text.StartsBlank rest) (hraw : p.raw = "" → rest = []) :
    readPair (p.text.toList ++ rest) = .ok (p, rest) := by
  have hend : ∀ c ∈ ('=' :: (p.raw.toList ++ rest)).head?, isKeyChar c = false := by
    simp [isKeyChar]
  have hcut := Text.span_run h.isKeyChar hend
  have hequals : Text.trimStart ('=' :: (p.raw.toList ++ rest)) =
      '=' :: (p.raw.toList ++ rest) := Text.trimStart_cons (by decide) _
  have hvalue : Text.trimStart (p.raw.toList ++ rest) = p.raw.toList ++ rest := by
    apply Text.trimStart_eq_self
    intro c hc
    cases hchars : p.raw.toList with
    | nil =>
      rw [hraw (String.toList_eq_nil_iff.1 hchars), hchars] at hc
      simp at hc
    | cons d tail =>
      rw [hchars] at hc
      exact h.isRaw.isBlank_head? (by rw [hchars]; simpa using hc)
  obtain ⟨d, key, hkey⟩ := List.exists_cons_of_ne_nil h.key_ne_nil
  rw [toList_text, List.append_assoc, List.cons_append]
  dsimp only [readPair]
  rw [hcut.1, hcut.2, hequals, hkey]
  simp only [hvalue, h.isRaw.readValue?_append hrest]
  rw [← hkey, String.ofList_toList, String.ofList_toList]

/-! ## All pairs -/

theorem readPairs_of_blank {cs : List Char} (h : Text.trimStart cs = []) :
    readPairs cs = .ok [] := by
  rw [readPairs, if_pos (by rw [h]; rfl)]

theorem readPairs_eq_map {cs after : List Char} {p : Pair}
    (h : readPair (Text.trimStart cs) = .ok (p, after)) :
    readPairs cs = (readPairs after).map (p :: ·) := by
  have hne : (Text.trimStart cs).isEmpty = false := by
    cases hcs : Text.trimStart cs with
    | nil =>
      rw [hcs] at h
      simp [readPair, Text.trimStart] at h
    | cons c rest => rfl
  rw [readPairs, hne]
  simp only [Bool.false_eq_true, if_false]
  split
  · simp_all
  · rename_i heq
    rw [h] at heq
    obtain ⟨rfl, rfl⟩ : p = _ ∧ after = _ := by simpa using heq
    rfl

theorem readPairs_eq_error {cs : List Char} {fault : Fault} (hne : Text.trimStart cs ≠ [])
    (h : readPair (Text.trimStart cs) = .error fault) : readPairs cs = .error fault := by
  rw [readPairs, if_neg (by simpa using hne)]
  split
  · simp_all
  · simp_all

/-- The faults of reading pairs; each names the key where reading stopped. -/
inductive IsPairFault : Fault → Prop
  /-- A value whose quote is never closed. -/
  | unterminated (key : String) : IsPairFault
      (.invalidDescriptor ("unterminated quoted value for key " ++ Text.quoted key))
  /-- A key that is empty or that no equals sign follows. -/
  | noPair (key : String) : IsPairFault
      (.invalidDescriptor ("expected key=value pair near " ++ Text.quoted key))

theorem IsPairFault.exists_detail {fault : Fault} (h : IsPairFault fault) :
    ∃ detail, fault = .invalidDescriptor detail := by
  cases h with
  | unterminated key => exact ⟨_, rfl⟩
  | noPair key => exact ⟨_, rfl⟩

theorem readPair_fault {cs : List Char} {fault : Fault} (h : readPair cs = .error fault) :
    IsPairFault fault := by
  dsimp only [readPair] at h
  split at h
  · split at h
    · cases h
    · exact Except.error.inj h ▸ .unterminated _
  · exact Except.error.inj h ▸ .noPair _

theorem readPairs_fault {cs : List Char} {fault : Fault} (h : readPairs cs = .error fault) :
    IsPairFault fault := by
  fun_induction readPairs cs with
  | case1 cs hempty => cases h
  | case2 cs hempty other hpair =>
    obtain rfl : other = fault := Except.error.inj h
    exact readPair_fault hpair
  | case3 cs hempty p after hpair hlength ih =>
    cases hrest : readPairs after with
    | error other =>
      rw [hrest] at h
      obtain rfl : other = fault := Except.error.inj h
      exact ih hrest
    | ok rest =>
      rw [hrest] at h
      cases h

/-- Blanks at the start of the text do not count. -/
theorem readPairs_cons_blank {c : Char} (h : Text.isBlank c = true) (cs : List Char) :
    readPairs (c :: cs) = readPairs cs := by
  have htrim : Text.trimStart (c :: cs) = Text.trimStart cs := by
    rw [Text.trimStart, List.dropWhile_cons_of_pos h, Text.trimStart]
  by_cases hnil : Text.trimStart cs = []
  · rw [readPairs_of_blank hnil, readPairs_of_blank (by rw [htrim, hnil])]
  · cases hpair : readPair (Text.trimStart cs) with
    | error fault =>
      rw [readPairs_eq_error hnil hpair,
        readPairs_eq_error (by rw [htrim]; exact hnil) (by rw [htrim]; exact hpair)]
    | ok found =>
      rw [readPairs_eq_map hpair, readPairs_eq_map (by rw [htrim]; exact hpair)]

/-- The first pair read and the pairs behind it. -/
theorem readPairs_eq_ok {cs : List Char} {pairs : List Pair} (h : readPairs cs = .ok pairs) :
    Text.trimStart cs = [] ∧ pairs = [] ∨
      ∃ p rest after, pairs = p :: rest ∧ readPair (Text.trimStart cs) = .ok (p, after) ∧
        readPairs after = .ok rest := by
  rw [readPairs] at h
  split at h
  · rename_i hempty
    exact Or.inl ⟨List.isEmpty_iff.1 hempty, by simpa using h.symm⟩
  · split at h
    · simp at h
    · rename_i p after hpair
      cases hrest : readPairs after with
      | error fault => simp [hrest, Except.map] at h
      | ok rest =>
        refine Or.inr ⟨p, rest, after, ?_, hpair, hrest⟩
        simpa [hrest, Except.map] using h.symm

/-- **Reading gives pairs in written form.** -/
theorem isWritten_of_readPairs {cs : List Char} {pairs : List Pair}
    (h : readPairs cs = .ok pairs) : IsWritten pairs := by
  induction pairs generalizing cs with
  | nil => exact ⟨by simp, List.Pairwise.nil⟩
  | cons p rest ih =>
    obtain ⟨-, hnil⟩ | ⟨_, _, after, hcons, hpair, hrest⟩ := readPairs_eq_ok h
    · simp at hnil
    · obtain ⟨rfl, rfl⟩ := List.cons.inj hcons
      have hwritten := ih hrest
      refine ⟨?_, List.pairwise_cons.2 ⟨fun q hq hraw => ?_, hwritten.raw_ne⟩⟩
      · rw [List.forall_mem_cons]
        exact ⟨isWritten_of_readPair hpair, hwritten.each⟩
      · rw [after_eq_nil_of_readPair hpair hraw, readPairs_of_blank rfl] at hrest
        obtain rfl : [] = rest := by simpa using hrest
        simp at hq

/-- The characters written for pairs. -/
def chars (pairs : List Pair) : List Char := [' '].intercalate (pairs.map (·.text.toList))

theorem toList_text_eq_chars (d : KeyValue) : d.text.toList = chars d.pairs := by
  simp [text, chars, Function.comp_def]

theorem chars_cons (p : Pair) (rest : List Pair) :
    chars (p :: rest) =
      p.text.toList ++ if rest = [] then [] else ' ' :: chars rest := by
  cases rest with
  | nil => simp [chars]
  | cons q rest => simp [chars]

/-- **What is written for pairs in written form reads as those pairs.** -/
theorem readPairs_chars {pairs : List Pair} (h : IsWritten pairs) :
    readPairs (chars pairs) = .ok pairs := by
  induction pairs with
  | nil => exact readPairs_of_blank rfl
  | cons p rest ih =>
    have hp : p.IsWritten := h.each p List.mem_cons_self
    obtain ⟨hraw, hapart⟩ := List.pairwise_cons.1 h.raw_ne
    have hrest := ih ⟨fun q hq => h.each q (List.mem_cons_of_mem _ hq), hapart⟩
    obtain ⟨c, key, hkey⟩ := List.exists_cons_of_ne_nil hp.key_ne_nil
    have hstart : Text.trimStart (chars (p :: rest)) = chars (p :: rest) := by
      have hc := (isKeyChar_iff.1 (hp.isKeyChar c (by rw [hkey]; simp))).2
      rw [chars_cons, toList_text, hkey]
      exact Text.trimStart_cons hc _
    -- An empty value is written only at the end, so the blank behind a value ends it.
    have hpair : readPair (chars (p :: rest)) =
        .ok (p, if rest = [] then [] else ' ' :: chars rest) := by
      rw [chars_cons]
      apply readPair_text hp
      · split
        · exact Text.startsBlank_nil
        · exact Text.startsBlank_cons.2 (by decide)
      · intro hempty
        rw [if_pos]
        cases rest with
        | nil => rfl
        | cons q rest => exact absurd hempty (hraw q List.mem_cons_self)
    rw [readPairs_eq_map (by rw [hstart]; exact hpair)]
    split
    · rename_i hnil
      rw [hnil, readPairs_of_blank rfl]
      rfl
    · -- The space written between two pairs is skipped when the second is read.
      rw [readPairs_cons_blank (by decide), hrest]
      rfl

end KeyValue

end PgVitals

import PgVitals.Descriptor.Basic
import PgVitals.Proofs.Descriptor.Pairs

/-!
# The first key decides the form

Whether a text is read as a URI, refused for its scheme or read as pairs is decided by its
characters before the first equals sign or blank.  A descriptor of pairs therefore keeps its form
when it is written: the text that is written starts with the first key, as the text that was read
did.
-/

namespace PgVitals.Descriptor

open Text KeyValue

/-! ## Beginnings -/

/-- A beginning that lacks the character behind the key lies within the key. -/
theorem prefix_append_cons_iff {start key rest : List Char} {c : Char} (h : c ∉ start) :
    start <+: key ++ c :: rest ↔ start <+: key := by
  constructor
  · intro hstart
    obtain hle | ⟨tail, rfl⟩ := List.prefix_or_prefix_of_prefix hstart (List.prefix_append key _)
    · exact hle
    · rw [List.prefix_append_right_inj] at hstart
      cases tail with
      | nil => simp
      | cons d tail =>
        obtain ⟨rfl, -⟩ := List.cons_prefix_cons.1 hstart
        exact absurd (List.mem_append_right key List.mem_cons_self) h
  · intro hstart
    exact hstart.trans (List.prefix_append key _)

theorem dropStart?_eq_none_iff {start cs : List Char} :
    dropStart? start cs = none ↔ ¬start <+: cs := by
  constructor
  · rintro hnone ⟨rest, rfl⟩
    rw [dropStart?_eq_some_iff.2 rfl] at hnone
    simp at hnone
  · intro hstart
    cases hdrop : dropStart? start cs with
    | none => rfl
    | some rest => exact absurd ⟨rest, (dropStart?_eq_some_iff.1 hdrop).symm⟩ hstart

theorem cutAtText?_append_cons {pattern rest : List Char} {c : Char} (h : c ∉ pattern)
    (key : List Char) :
    cutAtText? pattern (key ++ c :: rest) =
      match cutAtText? pattern key with
      | some (before, after) => some (before, after ++ c :: rest)
      | none =>
        (cutAtText? pattern (c :: rest)).map fun (before, after) => (key ++ before, after) := by
  induction key with
  | nil =>
    have hnil : cutAtText? pattern [] = none := rfl
    rw [hnil, List.nil_append]
    cases cutAtText? pattern (c :: rest) <;> rfl
  | cons d key ih =>
    have hprefix :
        pattern.isPrefixOf (d :: (key ++ c :: rest)) = pattern.isPrefixOf (d :: key) := by
      rw [Bool.eq_iff_iff, List.isPrefixOf_iff_prefix, List.isPrefixOf_iff_prefix,
        ← List.cons_append, prefix_append_cons_iff h]
    rw [List.cons_append, cutAtText?, hprefix, cutAtText?, ih]
    by_cases hhere : pattern.isPrefixOf (d :: key) = true
    · have hlen : pattern.length ≤ (d :: key).length :=
        (List.isPrefixOf_iff_prefix.1 hhere).length_le
      rw [if_pos hhere, if_pos hhere]
      simp only [← List.cons_append, List.drop_append_of_le_length hlen]
    · rw [if_neg hhere, if_neg hhere]
      cases cutAtText? pattern key with
      | none => simp [Option.map_map, Function.comp_def]
      | some cut => rfl

/-! ## Schemes -/

theorem isAlphanum_of_isBlank {c : Char} (h : isBlank c = true) : c.isAlphanum = false := by
  have hblank : ∃ range ∈ blankRanges, range.1 ≤ c.toNat ∧ c.toNat ≤ range.2 := CharSet.has_iff.1 h
  simp only [blankRanges, List.mem_cons, List.not_mem_nil, or_false, exists_eq_or_imp,
    exists_eq_left] at hblank
  rw [← Bool.not_eq_true]
  intro hword
  have hranges : ((65 ≤ c.toNat ∧ c.toNat ≤ 90) ∨ (97 ≤ c.toNat ∧ c.toNat ≤ 122)) ∨
      (48 ≤ c.toNat ∧ c.toNat ≤ 57) := by
    change ((decide (c.val ≥ 65 ∧ c.val ≤ 90) || (decide (c.val ≥ 97) && decide (c.val ≤ 122))) ||
      (decide (c.val ≥ 48) && decide (c.val ≤ 57))) = true at hword
    simpa [UInt32.le_iff_toNat_le] using hword
  omega

/-- What ends a key may not stand in a scheme. -/
theorem isSchemeName_eq_false_of_mem {c : Char} (hc : isKeyChar c = false) {cs : List Char}
    (hmem : c ∈ cs) : isSchemeName cs = false := by
  -- An equals sign and a blank are none of the characters of a scheme.
  have hother : c.isAlphanum = false ∧ c ≠ '+' ∧ c ≠ '.' ∧ c ≠ '-' := by
    by_cases hequals : c = '='
    · subst hequals
      decide
    · have hblank : isBlank c = true := by simpa [isKeyChar, hequals] using hc
      refine ⟨isAlphanum_of_isBlank hblank, ?_, ?_, ?_⟩ <;>
      · rintro rfl
        exact absurd hblank (by decide)
  obtain ⟨halnum, hplus, hpoint, hhyphen⟩ := hother
  have halpha : c.isAlpha = false := (Bool.or_eq_false_iff.1 halnum).1
  cases cs with
  | nil => simp at hmem
  | cons d rest =>
    rw [isSchemeName, Bool.and_eq_false_iff]
    obtain rfl | hrest := List.mem_cons.1 hmem
    · exact Or.inl halpha
    · refine Or.inr (List.all_eq_false.2 ⟨c, hrest, ?_⟩)
      simp [halnum, hplus, hpoint, hhyphen]

theorem schemeName?_append_cons {c : Char} (hc : isKeyChar c = false) (key rest : List Char) :
    schemeName? (key ++ c :: rest) = schemeName? key := by
  have hpattern : c ∉ [':', '/', '/'] := by
    intro hmem
    have hkey : isKeyChar c = true := by
      rcases (by simpa using hmem : c = ':' ∨ c = '/') with rfl | rfl <;> decide
    rw [hkey] at hc
    simp at hc
  unfold schemeName?
  rw [cutAtText?_append_cons hpattern]
  cases cutAtText? [':', '/', '/'] key with
  | some cut => rfl
  | none =>
    cases hcut : cutAtText? [':', '/', '/'] (c :: rest) with
    | none => rfl
    | some cut =>
      have hbefore : c ∈ cut.1 := by
        have hnot : ¬[':', '/', '/'].isPrefixOf (c :: rest) = true := by
          rw [List.isPrefixOf_iff_prefix]
          intro hprefix
          exact hpattern (by rw [(List.cons_prefix_cons.1 hprefix).1]; simp)
        rw [cutAtText?, if_neg hnot, Option.map_eq_some_iff] at hcut
        obtain ⟨inner, -, rfl⟩ := hcut
        exact List.mem_cons_self
      have hscheme : isSchemeName (key ++ cut.1) = false :=
        isSchemeName_eq_false_of_mem hc (List.mem_append_right key hbefore)
      simp [hscheme]

/-! ## Texts of pairs -/

/-- The characters open no URI and name no scheme. -/
structure OpensPairs (key : List Char) : Prop where
  not_prefix : ∀ scheme : Scheme, ¬scheme.text.toList <+: key
  schemeName?_eq : schemeName? key = none

/-- What ends a key stands in neither scheme, so the scheme is looked for within the key. -/
theorem dropStart?_scheme_eq_none_iff {key rest : List Char} {c : Char}
    (hc : isKeyChar c = false) (scheme : Scheme) :
    dropStart? scheme.text.toList (key ++ c :: rest) = none ↔ ¬scheme.text.toList <+: key := by
  have hscheme : c ∉ scheme.text.toList := by
    intro hmem
    have hall : scheme.text.toList.all isKeyChar = true := by
      cases scheme <;> decide +kernel
    rw [List.all_eq_true.1 hall c hmem] at hc
    simp at hc
  rw [dropStart?_eq_none_iff, prefix_append_cons_iff hscheme]

theorem opensPairs_append_cons_iff {key rest : List Char} {c : Char} (hc : isKeyChar c = false) :
    OpensPairs (key ++ c :: rest) ↔ OpensPairs key := by
  have hscheme : ∀ scheme : Scheme, ¬scheme.text.toList <+: key ++ c :: rest ↔
      ¬scheme.text.toList <+: key := fun scheme => by
    rw [← dropStart?_eq_none_iff, dropStart?_scheme_eq_none_iff hc]
  have hname := schemeName?_append_cons hc key rest
  exact ⟨fun h =>
      ⟨fun scheme => (hscheme scheme).1 (h.not_prefix scheme), hname ▸ h.schemeName?_eq⟩,
    fun h => ⟨fun scheme => (hscheme scheme).2 (h.not_prefix scheme), hname ▸ h.schemeName?_eq⟩⟩

/-- What reading comes to: a URI, a scheme that is refused, or pairs. -/
theorem readTrimmed_cases (cs : List Char) :
    (∃ scheme rest, cs = scheme.text.toList ++ rest ∧
      readTrimmed cs = .ok (.uri (Uri.read scheme rest))) ∨
    (∃ name, schemeName? cs = some name ∧ readTrimmed cs =
      .error (.invalidDescriptor ("unsupported URI scheme " ++ quoted (String.ofList name)))) ∨
    OpensPairs cs ∧ readTrimmed cs = (KeyValue.read cs).map .keyValue := by
  rw [readTrimmed]
  -- The tests in their order: the short scheme, the long one, another scheme, else pairs.
  split
  · rename_i rest hshort
    exact Or.inl ⟨.postgres, rest, dropStart?_eq_some_iff.1 hshort, rfl⟩
  · rename_i hshort
    split
    · rename_i rest hlong
      exact Or.inl ⟨.postgresql, rest, dropStart?_eq_some_iff.1 hlong, rfl⟩
    · rename_i hlong
      split
      · rename_i name hname
        exact Or.inr (Or.inl ⟨name, hname, rfl⟩)
      · rename_i hname
        refine Or.inr (Or.inr ⟨⟨fun scheme => ?_, hname⟩, rfl⟩)
        cases scheme with
        | postgres => exact dropStart?_eq_none_iff.1 hshort
        | postgresql => exact dropStart?_eq_none_iff.1 hlong

theorem readTrimmed_of_opensPairs {cs : List Char} (h : OpensPairs cs) :
    readTrimmed cs = (KeyValue.read cs).map .keyValue := by
  rw [readTrimmed, dropStart?_eq_none_iff.2 (h.not_prefix .postgres),
    dropStart?_eq_none_iff.2 (h.not_prefix .postgresql), h.schemeName?_eq]

/-- Whatever the form is, only the reader of pairs returns pairs. -/
theorem readTrimmed_eq_keyValue_iff {cs : List Char} {d : KeyValue} :
    readTrimmed cs = .ok (.keyValue d) ↔ OpensPairs cs ∧ KeyValue.read cs = .ok d := by
  constructor
  · intro hread
    obtain ⟨_, _, -, huri⟩ | ⟨_, -, hname⟩ | ⟨hopens, hpairs⟩ := readTrimmed_cases cs
    · simp [huri] at hread
    · simp [hname] at hread
    · rw [hpairs] at hread
      cases hfound : KeyValue.read cs with
      | error fault => simp [hfound, Except.map] at hread
      | ok found => simpa [hfound, Except.map, hopens] using hread
  · rintro ⟨hopens, hread⟩
    rw [readTrimmed_of_opensPairs hopens, hread]
    rfl

theorem read_eq_ok_iff {s : String} {d : Descriptor} :
    Descriptor.read s = .ok d ↔ trim s.toList ≠ [] ∧ readTrimmed (trim s.toList) = .ok d := by
  unfold Descriptor.read
  cases trim s.toList with
  | nil => simp
  | cons c rest => simp

theorem readKeyValue_fault {cs : List Char} {fault : Fault}
    (h : KeyValue.read cs = .error fault) : IsPairFault fault := by
  rw [KeyValue.read] at h
  cases hpairs : readPairs cs with
  | error other =>
    obtain rfl : other = fault := by simpa [hpairs, Except.map] using h
    exact readPairs_fault hpairs
  | ok pairs => simp [hpairs, Except.map] at h

/-- A text that is not read is an invalid descriptor. -/
theorem read_fault {s : String} {fault : Fault} (h : Descriptor.read s = .error fault) :
    ∃ detail, fault = .invalidDescriptor detail := by
  unfold Descriptor.read at h
  split at h
  · exact ⟨_, (Except.error.inj h).symm⟩
  · obtain ⟨_, _, -, huri⟩ | ⟨_, -, hname⟩ | ⟨-, hpairs⟩ := readTrimmed_cases (trim s.toList)
    · simp [huri] at h
    · rw [hname] at h
      exact ⟨_, (Except.error.inj h).symm⟩
    · rw [hpairs] at h
      cases hfound : KeyValue.read (trim s.toList) with
      | error other =>
        obtain rfl : other = fault := by simpa [hfound, Except.map] using h
        exact (readKeyValue_fault hfound).exists_detail
      | ok found => simp [hfound, Except.map] at h

theorem readKeyValue_eq_ok_iff {cs : List Char} {d : KeyValue} :
    KeyValue.read cs = .ok d ↔ readPairs cs = .ok d.pairs := by
  rw [KeyValue.read]
  cases hpairs : readPairs cs with
  | error fault => simp [Except.map]
  | ok pairs =>
    obtain ⟨found⟩ := d
    simp [Except.map]

/-- The pairs of a descriptor that was read are in written form, and the first key is the one
that made the text a list of pairs. -/
theorem pairs_of_read {s : String} {d : KeyValue} (h : Descriptor.read s = .ok (.keyValue d)) :
    IsWritten d.pairs ∧ ∃ p rest, d.pairs = p :: rest ∧ OpensPairs p.key.toList := by
  obtain ⟨hne, hread⟩ := read_eq_ok_iff.1 h
  have hstart : trimStart (trim s.toList) = trim s.toList :=
    trimStart_eq_self fun c hc => isBlank_of_mem_head?_trim hc
  obtain ⟨hopens, hkeyValue⟩ := readTrimmed_eq_keyValue_iff.1 hread
  have hpairs := readKeyValue_eq_ok_iff.1 hkeyValue
  refine ⟨isWritten_of_readPairs hpairs, ?_⟩
  obtain ⟨hnil, -⟩ | ⟨p, rest, after, hcons, hpair, -⟩ := readPairs_eq_ok hpairs
  · rw [hstart] at hnil
    exact absurd hnil hne
  · rw [hstart] at hpair
    obtain ⟨gap, tail, hcs, hgap, -, -, -⟩ := readPair_eq_ok hpair
    refine ⟨p, rest, hcons, ?_⟩
    cases gap with
    | nil => simp [trimStart] at hgap
    | cons c gap =>
      have hc : isKeyChar c = false := by
        by_cases hblank : isBlank c = true
        · simp [isKeyChar, hblank]
        · rw [trimStart_cons (by simpa using hblank)] at hgap
          obtain ⟨rfl, -⟩ := List.cons.inj hgap
          decide
      rwa [hcs, opensPairs_append_cons_iff hc] at hopens

theorem isBlank_getLast?_text {p : Pair} (h : p.IsWritten) {c : Char}
    (hc : c ∈ p.text.toList.getLast?) : isBlank c = false := by
  rw [toList_text, List.getLast?_append, List.getLast?_cons] at hc
  cases hraw : p.raw.toList.getLast? with
  | none =>
    rw [hraw] at hc
    obtain rfl : '=' = c := by simpa using hc
    decide
  | some last =>
    rw [hraw] at hc
    obtain rfl : last = c := by simpa using hc
    exact h.isRaw.isBlank_getLast? hraw

theorem chars_ne_nil {pairs : List Pair} (h : pairs ≠ []) : chars pairs ≠ [] := by
  cases pairs with
  | nil => exact absurd rfl h
  | cons p rest =>
    intro hnil
    rw [chars_cons, toList_text] at hnil
    simp at hnil

theorem isBlank_getLast?_chars {pairs : List Pair} (h : IsWritten pairs) {c : Char}
    (hc : c ∈ (chars pairs).getLast?) : isBlank c = false := by
  induction pairs with
  | nil => simp [chars] at hc
  | cons p rest ih =>
    have hrest : IsWritten rest :=
      ⟨fun q hq => h.each q (List.mem_cons_of_mem _ hq), (List.pairwise_cons.1 h.raw_ne).2⟩
    rw [chars_cons, List.getLast?_append] at hc
    split at hc
    · exact isBlank_getLast?_text (h.each p List.mem_cons_self) (by simpa using hc)
    · rename_i hne
      rw [List.getLast?_cons] at hc
      cases hlast : (chars rest).getLast? with
      | none => exact absurd (List.getLast?_eq_none_iff.1 hlast) (chars_ne_nil hne)
      | some last =>
        rw [hlast] at hc
        obtain rfl : last = c := by simpa using hc
        exact ih hrest hlast

theorem isBlank_head?_chars {pairs : List Pair} (h : IsWritten pairs) {c : Char}
    (hc : c ∈ (chars pairs).head?) : isBlank c = false := by
  cases pairs with
  | nil => simp [chars] at hc
  | cons p rest =>
    have hp : p.IsWritten := h.each p List.mem_cons_self
    obtain ⟨d, key, hkey⟩ := List.exists_cons_of_ne_nil hp.key_ne_nil
    rw [chars_cons, toList_text, hkey] at hc
    obtain rfl : d = c := by simpa using hc
    exact (isKeyChar_iff.1 (hp.isKeyChar d (by rw [hkey]; simp))).2

/-- No blank stands at either end of what is written for pairs in written form. -/
theorem trim_chars {pairs : List Pair} (h : IsWritten pairs) : trim (chars pairs) = chars pairs :=
  trim_eq_self (fun _ hc => isBlank_head?_chars h hc) fun _ hc => isBlank_getLast?_chars h hc

/-- **A descriptor of pairs in written form is read from its own text,** provided that its first
key opens no URI. -/
theorem read_text {p : Pair} {rest : List Pair} (h : IsWritten (p :: rest))
    (hopens : OpensPairs p.key.toList) :
    Descriptor.read (KeyValue.text ⟨p :: rest⟩) = .ok (.keyValue ⟨p :: rest⟩) := by
  rw [read_eq_ok_iff, toList_text_eq_chars, trim_chars h]
  have hchars : chars (p :: rest) = p.key.toList ++ '=' ::
      (p.raw.toList ++ if rest = [] then [] else ' ' :: chars rest) := by
    rw [chars_cons, toList_text, List.append_assoc, List.cons_append]
  constructor
  · rw [hchars]
    simp
  · rw [readTrimmed_eq_keyValue_iff, readKeyValue_eq_ok_iff, hchars,
      opensPairs_append_cons_iff (by decide), ← hchars]
    exact ⟨hopens, readPairs_chars h⟩

end PgVitals.Descriptor

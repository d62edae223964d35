import PgVitals.Proofs.Descriptor.Grammar

/-!
# Reading pairs by their places

The reader of this file goes through a text by places, numbered from zero, and never looks back.  It
may look only at places that the text has, and take only pieces between such places; a look beyond
the end gives `none`, and the reader with it.  Behind a backslash it goes on two places further,
also when that is beyond the end.  The main statement is that no look fails: by places a text is
read as it is read piece by piece, and refused with the same fault.
-/

namespace PgVitals.KeyValue.Places

open Text

/-! ## The reader -/

/-- The first place from `i` on whose character is of another kind; the end if there is none. -/
def skip? (p : Char → Bool) (chars : Array Char) (i : Nat) : Option Nat :=
  if i < chars.size then do
    let c ← chars[i]?
    if p c then skip? p chars (i + 1) else return i
  else return i
termination_by chars.size - i

/-- The characters from one place up to another, if the text has these places. -/
def slice? (chars : Array Char) (start stop : Nat) : Option (List Char) :=
  if start ≤ stop ∧ stop ≤ chars.size then some (chars.extract start stop).toList else none

/-- The place behind the closing quote, if the quote is closed. -/
def closing? (chars : Array Char) (i : Nat) : Option (Option Nat) :=
  if i < chars.size then do
    let c ← chars[i]?
    if c = '\\' then closing? chars (i + 2)
    else if c = '\'' then return some (i + 1)
    else closing? chars (i + 1)
  else return none
termination_by chars.size - i

/-- Whether the character at a place is this one; none is at the end. -/
def isAt? (c : Char) (chars : Array Char) (i : Nat) : Option Bool :=
  if i < chars.size then chars[i]?.map (· == c) else return false

/-- The place behind the value that starts at `i`, unless its quote is never closed. -/
def valueEnd? (chars : Array Char) (i : Nat) : Option (Option Nat) := do
  if ← isAt? '\'' chars i then closing? chars (i + 1)
  else return some (← skip? (!isBlank ·) chars i)

/-- The pair of a key and the value that starts at `i`, and the place behind the value. -/
def pairOf? (key : List Char) (chars : Array Char) (i : Nat) :
    Option (Except Fault (Pair × Nat)) := do
  match ← valueEnd? chars i with
  | none =>
    return .error (.invalidDescriptor
      ("unterminated quoted value for key " ++ quoted (String.ofList key)))
  | some stop =>
    let raw ← slice? chars i (min stop chars.size)
    return .ok (⟨String.ofList key, String.ofList raw⟩, stop)

/-- The pair whose key starts at `i`, and the place behind its value. -/
def pairAt? (chars : Array Char) (i : Nat) : Option (Except Fault (Pair × Nat)) := do
  let stop ← skip? isKeyChar chars i
  let key ← slice? chars i stop
  let equals ← skip? isBlank chars stop
  if !(← isAt? '=' chars equals) || key.isEmpty then
    return .error
      (.invalidDescriptor ("expected key=value pair near " ++ quoted (String.ofList key)))
  else pairOf? key chars (← skip? isBlank chars (equals + 1))

/-! ## The text from a place on -/

section

variable {chars : Array Char} {i : Nat}

/-- The characters from a place on. -/
def remaining (chars : Array Char) (i : Nat) : List Char := chars.toList.drop i

theorem remaining_of_lt (h : i < chars.size) :
    remaining chars i = chars[i] :: remaining chars (i + 1) :=
  List.drop_eq_getElem_cons (by simpa using h)

theorem remaining_of_le (h : chars.size ≤ i) : remaining chars i = [] :=
  List.drop_eq_nil_of_le (by simpa using h)

theorem length_remaining (chars : Array Char) (i : Nat) :
    (remaining chars i).length = chars.size - i := by
  rw [remaining, List.length_drop, Array.length_toList]

variable {xs ys : List Char}

theorem remaining_add (h : remaining chars i = xs ++ ys) :
    remaining chars (i + xs.length) = ys := by
  have hdrop : remaining chars (i + xs.length) = (remaining chars i).drop xs.length :=
    List.drop_drop.symm
  rw [hdrop, h, List.drop_left]

/-- The place where the end of the text starts is told by how long that end is. -/
theorem remaining_of_suffix (h : ys <:+ remaining chars i) :
    remaining chars (chars.size - ys.length) = ys := by
  have hsuffix : ys <:+ chars.toList := h.trans (List.drop_suffix i _)
  rw [remaining, ← Array.length_toList, ← List.suffix_iff_eq_drop.1 hsuffix]

/-- A place up to the end is told by the length of the text behind it. -/
theorem add_length_eq (hi : i ≤ chars.size) (h : remaining chars i = xs ++ ys) :
    i + xs.length = chars.size - ys.length := by
  have hlength := length_remaining chars i
  rw [h, List.length_append] at hlength
  omega

end

/-! ## No look fails -/

theorem slice?_eq {chars : Array Char} {i : Nat} {xs ys : List Char} (hi : i ≤ chars.size)
    (h : remaining chars i = xs ++ ys) : slice? chars i (i + xs.length) = some xs := by
  have hstop := add_length_eq hi h
  rw [slice?, if_pos (by omega), Array.toList_extract, List.extract_eq_take_drop, ← remaining, h,
    Nat.add_sub_cancel_left, List.take_left]

theorem skip?_eq (p : Char → Bool) (chars : Array Char) (i : Nat) :
    skip? p chars i = some (i + ((remaining chars i).takeWhile p).length) := by
  fun_induction skip? p chars i with
  | case1 i hi ih =>
    rw [Array.getElem?_eq_getElem hi, remaining_of_lt hi, List.takeWhile_cons]
    simp only [Option.bind_eq_bind, Option.bind_some]
    split
    · rw [ih, List.length_cons]
      congr 1
      omega
    · rfl
  | case2 i hi =>
    rw [remaining_of_le (by omega)]
    rfl

/-- What is put in front of a run takes the place behind it as much further on. -/
theorem map_place (front : List Char) (i : Nat) (found : Option (List Char × List Char)) :
    (found.map fun (run, after) => (front ++ run, after)).map (fun found => i + found.1.length) =
      found.map fun found => i + front.length + found.1.length := by
  cases found with
  | none => rfl
  | some found => simp [Nat.add_assoc]

/-- The place behind the closing quote is as far on as the quoted run is long. -/
theorem closing?_eq (chars : Array Char) (i : Nat) :
    closing? chars i =
      some ((readQuoted? (remaining chars i)).map fun found => i + found.1.length) := by
  -- The index reader goes forward as the list reader drops: `remaining` ties the two, and the
  -- places are the lengths read.
  fun_induction closing? chars i with
  | case1 i hi ih ih' =>
    rw [Array.getElem?_eq_getElem hi, remaining_of_lt hi]
    simp only [Option.bind_eq_bind, Option.bind_some]
    by_cases hslash : chars[i] = '\\'
    · rw [if_pos hslash, ih, hslash]
      by_cases hnext : i + 1 < chars.size
      · rw [remaining_of_lt hnext, readQuoted?]
        exact congrArg some (map_place ['\\', chars[i + 1]] i _).symm
      · rw [remaining_of_le (show chars.size ≤ i + 2 by omega), remaining_of_le (by omega)]
        rfl
    · rw [if_neg hslash]
      by_cases hquote : chars[i] = '\''
      · rw [if_pos hquote, hquote]
        rfl
      · rw [if_neg hquote, ih', readQuoted?_plain hquote hslash]
        exact congrArg some (map_place [chars[i]] i _).symm
  | case2 i hi =>
    rw [remaining_of_le (by omega)]
    rfl

theorem isAt?_eq (c : Char) (chars : Array Char) (i : Nat) :
    isAt? c chars i = some ((remaining chars i).head? == some c) := by
  unfold isAt?
  split
  · rename_i hi
    rw [Array.getElem?_eq_getElem hi, remaining_of_lt hi]
    rfl
  · rename_i hi
    rw [remaining_of_le (by omega)]
    rfl

theorem valueEnd?_eq (chars : Array Char) (i : Nat) :
    valueEnd? chars i =
      some ((readValue? (remaining chars i)).map fun found => i + found.1.length) := by
  rw [valueEnd?, isAt?_eq]
  simp only [Option.bind_eq_bind, Option.bind_some]
  split
  · rename_i hquote
    obtain ⟨tail, htail⟩ := List.head?_eq_some_iff.1 (eq_of_beq hquote)
    have hi : i < chars.size := by
      by_contra hle
      rw [remaining_of_le (by omega)] at htail
      cases htail
    rw [remaining_of_lt hi, List.cons.injEq] at htail
    rw [closing?_eq, remaining_of_lt hi, htail.1, readValue?]
    exact congrArg some (map_place ['\''] i _).symm
  · rename_i hquote
    rw [skip?_eq, readValue?]
    · rfl
    · intro tail htail
      rw [htail] at hquote
      simp at hquote

/-- What a skip leaves, and that it stays within the text. -/
theorem remaining_skip {chars : Array Char} {i : Nat} (hi : i ≤ chars.size) (p : Char → Bool) :
    remaining chars (i + ((remaining chars i).takeWhile p).length) =
        (remaining chars i).dropWhile p ∧
      i + ((remaining chars i).takeWhile p).length ≤ chars.size := by
  have hsplit : remaining chars i =
      (remaining chars i).takeWhile p ++ (remaining chars i).dropWhile p :=
    List.takeWhile_append_dropWhile.symm
  exact ⟨remaining_add hsplit, by rw [add_length_eq hi hsplit]; omega⟩

theorem pairOf?_eq (key : List Char) {chars : Array Char} {i : Nat} (hi : i ≤ chars.size) :
    pairOf? key chars i = some (match readValue? (remaining chars i) with
      | some (raw, after) =>
        .ok (⟨String.ofList key, String.ofList raw⟩, chars.size - after.length)
      | none => .error (.invalidDescriptor
          ("unterminated quoted value for key " ++ quoted (String.ofList key)))) := by
  rw [pairOf?, valueEnd?_eq]
  cases hvalue : readValue? (remaining chars i) with
  | none => rfl
  | some found =>
    obtain ⟨raw, after⟩ := found
    have hsplit := readValue?_eq_append hvalue
    have hstop := add_length_eq hi hsplit
    simp only [Option.map_some, Option.bind_eq_bind, Option.bind_some]
    rw [Nat.min_eq_left (by omega), slice?_eq hi hsplit, hstop]
    rfl

/-- **By places a pair is read as it is read off the text,** and the place behind it is told by the
length of what follows. -/
theorem pairAt?_eq {chars : Array Char} {i : Nat} (hi : i ≤ chars.size) :
    pairAt? chars i = some ((readPair (remaining chars i)).map fun found =>
      (found.1, chars.size - found.2.length)) := by
  have hkey : slice? chars i (i + ((remaining chars i).takeWhile isKeyChar).length) =
      some ((remaining chars i).takeWhile isKeyChar) :=
    slice?_eq hi List.takeWhile_append_dropWhile.symm
  obtain ⟨hgap, hstop⟩ := remaining_skip hi isKeyChar
  obtain ⟨htrim, hequals⟩ := remaining_skip hstop isBlank
  rw [hgap] at htrim hequals
  dsimp only [readPair]
  rw [pairAt?, skip?_eq]
  simp only [Option.bind_eq_bind, Option.bind_some, hkey, skip?_eq, hgap, isAt?_eq, htrim]
  rw [← trimStart] at htrim ⊢
  -- From here on only the key, the place of the equals sign and the text from there on matter.
  generalize (remaining chars i).takeWhile isKeyChar = key at *
  generalize i + key.length + _ = equals at *
  generalize trimStart ((remaining chars i).dropWhile isKeyChar) = behind at *
  split
  · rename_i hnone
    split
    · simp at hnone
    · rfl
  · rename_i hpair
    obtain ⟨hequal, hne⟩ : behind.head? = some '=' ∧ key ≠ [] := by simpa using hpair
    obtain ⟨tail, rfl⟩ := List.head?_eq_some_iff.1 hequal
    obtain ⟨c, letters, hletters⟩ := List.exists_cons_of_ne_nil hne
    have hlt : equals < chars.size := by
      by_contra hle
      rw [remaining_of_le (by omega)] at htrim
      cases htrim
    have htail : remaining chars (equals + 1) = tail := by
      rw [remaining_of_lt hlt] at htrim
      exact (List.cons.inj htrim).2
    obtain ⟨hskip, hvalue⟩ := remaining_skip (Nat.succ_le_of_lt hlt) isBlank
    rw [Nat.succ_eq_add_one, htail] at hskip hvalue
    rw [htail, pairOf?_eq key hvalue, hskip, ← trimStart, hletters]
    cases hread : readValue? (trimStart tail) <;>
      simp only [hread, Except.map]

/-! ## All pairs -/

theorem le_of_skip? {p : Char → Bool} {chars : Array Char} {i start : Nat}
    (h : skip? p chars i = some start) : i ≤ start := by
  rw [skip?_eq, Option.some.injEq] at h
  omega

theorem remaining_of_skip? {chars : Array Char} {i start : Nat} (hi : i ≤ chars.size)
    (h : skip? isBlank chars i = some start) :
    remaining chars start = trimStart (remaining chars i) := by
  rw [skip?_eq, Option.some.injEq] at h
  rw [← h, (remaining_skip hi isBlank).1, trimStart]

/-- Behind a pair the place is further on. -/
theorem lt_of_pairAt? {chars : Array Char} {i stop : Nat} {p : Pair} (hi : i < chars.size)
    (h : pairAt? chars i = some (.ok (p, stop))) : i < stop := by
  rw [pairAt?_eq hi.le, Option.some.injEq] at h
  cases hpair : readPair (remaining chars i) with
  | error fault =>
    rw [hpair] at h
    cases h
  | ok found =>
    rw [hpair] at h
    have hlength := readPair_length hpair
    have hstop : chars.size - found.2.length = stop := by
      simpa [Except.map] using congrArg Prod.snd (Except.ok.inj h)
    rw [length_remaining] at hlength
    omega

/-- All pairs from a place on, from left to right. -/
def pairsFrom? (chars : Array Char) (i : Nat) : Option (Except Fault (List Pair)) :=
  match hskip : skip? isBlank chars i with
  | none => none
  | some start =>
    if hstart : start < chars.size then
      match hpair : pairAt? chars start with
      | none => none
      | some (.error fault) => some (.error fault)
      | some (.ok (pair, stop)) =>
        have := le_of_skip? hskip
        have := lt_of_pairAt? hstart hpair
        (pairsFrom? chars stop).map fun found => found.map (pair :: ·)
    else some (.ok [])
termination_by chars.size - i

/-- **No look fails, and the pairs are those that reading finds.** -/
theorem pairsFrom?_eq {chars : Array Char} {i : Nat} (hi : i ≤ chars.size) :
    pairsFrom? chars i = some (readPairs (remaining chars i)) := by
  -- By the index reader's own recursion.  In its first two cases it would have read beyond the end,
  -- which the equations for the parts rule out.
  fun_induction pairsFrom? chars i with
  | case1 i hskip =>
    rw [skip?_eq] at hskip
    cases hskip
  | case2 i start hskip hstart hpair =>
    rw [pairAt?_eq hstart.le] at hpair
    cases hpair
  | case3 i start hskip hstart fault hpair =>
    have hblank := remaining_of_skip? hi hskip
    rw [pairAt?_eq hstart.le, hblank, Option.some.injEq] at hpair
    have hne : trimStart (remaining chars i) ≠ [] := by
      rw [← hblank, remaining_of_lt hstart]
      exact List.cons_ne_nil _ _
    cases hread : readPair (trimStart (remaining chars i)) with
    | error other =>
      rw [hread] at hpair
      obtain rfl : other = fault := Except.error.inj hpair
      rw [readPairs_eq_error hne hread]
    | ok found =>
      rw [hread] at hpair
      cases hpair
  | case4 i start hskip hstart pair stop hpair _ _ ih =>
    have hblank := remaining_of_skip? hi hskip
    rw [pairAt?_eq hstart.le, hblank, Option.some.injEq] at hpair
    cases hread : readPair (trimStart (remaining chars i)) with
    | error other =>
      rw [hread] at hpair
      cases hpair
    | ok found =>
      obtain ⟨p, after⟩ := found
      rw [hread] at hpair
      obtain ⟨rfl, rfl⟩ : p = pair ∧ chars.size - after.length = stop := by
        simpa [Except.map] using hpair
      obtain ⟨t, -, -, hcs⟩ := readPair_trimStart_eq_ok_iff.1 hread
      have hstop : remaining chars (chars.size - after.length) = after :=
        remaining_of_suffix ⟨t.chars, hcs.symm⟩
      rw [ih (Nat.sub_le _ _), hstop, readPairs_eq_map hread, Option.map_some]
  | case5 i start hskip hstart =>
    have hblank := remaining_of_skip? hi hskip
    rw [remaining_of_le (by omega)] at hblank
    rw [readPairs_of_blank hblank.symm]

/-- Reads a descriptor of pairs by its places. -/
def read? (cs : List Char) : Option (Except Fault KeyValue) :=
  (pairsFrom? cs.toArray 0).map fun found => found.map KeyValue.mk

theorem read?_eq (cs : List Char) : read? cs = some (KeyValue.read cs) := by
  rw [read?, pairsFrom?_eq (Nat.zero_le _), Option.map_some, KeyValue.read]
  rfl

end PgVitals.KeyValue.Places

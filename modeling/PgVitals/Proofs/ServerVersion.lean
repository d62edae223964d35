import PgVitals.Proofs.Decimal.Unsigned
import PgVitals.Proofs.Text.Cut
import PgVitals.Proofs.Text.Trim
import PgVitals.ServerVersion

/-!
# Reading versions

The parts of a version stand at the front of a text: the longest run of digits, then up to two
further runs, each behind a point.  The main statement is about both readers.  Behind any product
word and a space they see the same front, since a word character is never a blank.  The version
they return has the numbers that the parts write, zeros for those missing; where a part has a digit
of another script or a value of more than 64 bits they return none, so no number is ever cut off or
reduced.
-/

namespace PgVitals.ServerVersion

open Text

/-! ## Words and digits -/

/-- The ranges of the word characters and those of the blanks have no character in common. -/
theorem not_isBlank_of_isWordChar {c : Char} (h : isWordChar c = true) : isBlank c = false := by
  have hapart : ∀ word ∈ wordRanges, ∀ blank ∈ blankRanges,
      word.2 < blank.1 ∨ blank.2 < word.1 := by decide +kernel
  rw [Bool.eq_false_iff]
  intro hblank
  obtain ⟨word, hword, hlow, hhigh⟩ := CharSet.has_iff.1 h
  obtain ⟨blank, hblank, hlow', hhigh'⟩ := CharSet.has_iff.1 hblank
  have := hapart word hword blank hblank
  omega

/-- The text starts with a digit of some script. -/
def StartsDigit (cs : List Char) : Prop := ∃ c ∈ cs.head?, isDigitChar c = true

theorem startsDigit_cons {c : Char} {cs : List Char} :
    StartsDigit (c :: cs) ↔ isDigitChar c = true := by
  simp [StartsDigit]

/-! ## The front of a text -/

/-- The parts are the longest run of digits at the front of the text and up to two further runs,
each the longest one behind a point; the rest stands behind them. -/
structure Front (cs : List Char) (parts : List (List Char)) (rest : List Char) : Prop where
  /-- The parts have points between them. -/
  text : cs = ['.'].intercalate parts ++ rest
  /-- There is a part. -/
  nonempty : parts ≠ []
  /-- There are three at most. -/
  few : parts.length ≤ 3
  /-- The parts are runs of digits. -/
  digits : ∀ part ∈ parts, part ≠ [] ∧ ∀ c ∈ part, isDigitChar c = true
  /-- The last part is not continued. -/
  longest : ¬StartsDigit rest
  /-- No further part stands behind the last, unless that is the third. -/
  all : parts.length < 3 → ∀ tail, rest = '.' :: tail → ¬StartsDigit tail

/-- Further parts, each behind a point. -/
def pointed (more : List (List Char)) : List Char := more.flatMap ('.' :: ·)

theorem intercalate_cons (part : List Char) (more : List (List Char)) :
    ['.'].intercalate (part :: more) = part ++ pointed more := by
  induction more generalizing part with
  | nil => simp [pointed]
  | cons next more ih =>
    rw [List.intercalate_cons_cons, ih next]
    simp [pointed]

/-- Behind a run of digits stands a point or the rest, which starts with none. -/
theorem not_startsDigit_pointed {more : List (List Char)} {rest : List Char}
    (h : ¬StartsDigit rest) : ¬StartsDigit (pointed more ++ rest) := by
  cases more with
  | nil => simpa [pointed] using h
  | cons part more =>
    have hpoint : isDigitChar '.' = false := by decide
    change ¬StartsDigit ('.' :: _)
    rw [startsDigit_cons, hpoint]
    decide

/-- A run of digits is cut off where none stands behind it. -/
theorem span_digits {run rest : List Char} (hrun : ∀ c ∈ run, isDigitChar c = true)
    (hrest : ¬StartsDigit rest) :
    (run ++ rest).takeWhile isDigitChar = run ∧ (run ++ rest).dropWhile isDigitChar = rest := by
  apply span_run hrun
  intro c hc
  rw [Bool.eq_false_iff]
  intro hdigit
  exact hrest ⟨c, hc, hdigit⟩

theorem takeWhile_digits {cs : List Char} (h : ¬StartsDigit cs) : cs.takeWhile isDigitChar = [] :=
  (@span_digits [] cs (by simp) h).1

theorem pointedRuns_point {count : Nat} {run rest : List Char} (hne : run ≠ [])
    (hrun : ∀ c ∈ run, isDigitChar c = true) (hrest : ¬StartsDigit rest) :
    pointedRuns (count + 1) ('.' :: (run ++ rest)) = run :: pointedRuns count rest := by
  obtain ⟨htake, hdrop⟩ := span_digits hrun hrest
  rw [pointedRuns, htake, hdrop]
  split
  · exact absurd rfl hne
  · rfl

/-- Where no further part stands, none is read. -/
theorem pointedRuns_eq_nil {count : Nat} {rest : List Char}
    (h : ∀ tail, rest = '.' :: tail → ¬StartsDigit tail) : pointedRuns count rest = [] := by
  unfold pointedRuns
  split
  · rfl
  · rename_i count tail
    rw [takeWhile_digits (h tail rfl)]
  · rfl

/-- The further parts are found one after the other, as long as there is room for them. -/
theorem pointedRuns_pointed {count : Nat} {more : List (List Char)} {rest : List Char}
    (hfew : more.length ≤ count)
    (hdigits : ∀ part ∈ more, part ≠ [] ∧ ∀ c ∈ part, isDigitChar c = true)
    (hlongest : ¬StartsDigit rest)
    (hall : more.length < count → ∀ tail, rest = '.' :: tail → ¬StartsDigit tail) :
    pointedRuns count (pointed more ++ rest) = more := by
  induction more generalizing count with
  | nil =>
    cases count with
    | zero => rfl
    | succ count => exact pointedRuns_eq_nil (hall (by simp))
  | cons part more ih =>
    have hroom : count ≠ 0 := by
      rintro rfl
      simp at hfew
    obtain ⟨count, rfl⟩ := Nat.exists_eq_succ_of_ne_zero hroom
    obtain ⟨⟨hne, hrun⟩, hmore⟩ := List.forall_mem_cons.1 hdigits
    have hbehind : ¬StartsDigit (pointed more ++ rest) := not_startsDigit_pointed hlongest
    have htext : pointed (part :: more) ++ rest = '.' :: (part ++ (pointed more ++ rest)) := by
      simp [pointed]
    rw [htext, pointedRuns_point hne hrun hbehind]
    congr 1
    apply ih (by simpa using hfew) hmore
    intro hless
    exact hall (by simpa using hless)

/-- The parts that are read are those at the front. -/
theorem readFront?_of_front {cs rest : List Char} {parts : List (List Char)}
    (h : Front cs parts rest) : readFront? cs = ofParts? parts := by
  obtain ⟨part, more, rfl⟩ := List.exists_cons_of_ne_nil h.nonempty
  obtain ⟨⟨hne, hrun⟩, hmore⟩ := List.forall_mem_cons.1 h.digits
  have htext : cs = part ++ (pointed more ++ rest) := by
    rw [h.text, intercalate_cons, List.append_assoc]
  have hfew : more.length ≤ 2 := by
    have hparts := h.few
    simp only [List.length_cons] at hparts
    omega
  have hall : more.length < 2 → ∀ tail, rest = '.' :: tail → ¬StartsDigit tail := by
    intro hroom
    apply h.all
    simp only [List.length_cons]
    omega
  obtain ⟨htake, hdrop⟩ := span_digits hrun (not_startsDigit_pointed h.longest)
  rw [readFront?, htext, htake, hdrop, pointedRuns_pointed hfew hmore h.longest hall]
  split
  · exact absurd rfl hne
  · rfl

/-- Without a digit at the front there is no version. -/
theorem readFront?_eq_none {cs : List Char} (h : ¬StartsDigit cs) : readFront? cs = none := by
  rw [readFront?, takeWhile_digits h]

/-- A text that starts with a digit is its longest run of digits and what stands behind. -/
theorem exists_run {cs : List Char} (h : StartsDigit cs) :
    ∃ run rest, cs = run ++ rest ∧ run ≠ [] ∧ (∀ c ∈ run, isDigitChar c = true) ∧
      ¬StartsDigit rest := by
  refine ⟨cs.takeWhile isDigitChar, cs.dropWhile isDigitChar, List.takeWhile_append_dropWhile.symm,
    ?_, fun c hc => List.mem_takeWhile_imp hc, ?_⟩
  · obtain ⟨c, hc, hdigit⟩ := h
    cases cs with
    | nil => simp at hc
    | cons d cs =>
      obtain rfl : d = c := by simpa using hc
      simp [hdigit]
  · rintro ⟨c, hc, hdigit⟩
    have hnot := List.head?_dropWhile_not isDigitChar cs
    rw [Option.mem_def.1 hc] at hnot
    simp [hdigit] at hnot

/-- Every text has its further parts in front of a rest. -/
theorem exists_pointed (count : Nat) {cs : List Char} (h : ¬StartsDigit cs) :
    ∃ more rest, cs = pointed more ++ rest ∧ more.length ≤ count ∧
      (∀ part ∈ more, part ≠ [] ∧ ∀ c ∈ part, isDigitChar c = true) ∧ ¬StartsDigit rest ∧
      (more.length < count → ∀ tail, rest = '.' :: tail → ¬StartsDigit tail) := by
  induction count generalizing cs with
  | zero => exact ⟨[], cs, by simp [pointed], by simp, by simp, h, by simp⟩
  | succ count ih =>
    -- The text goes on only with a point and a digit; a point alone belongs to the rest.
    by_cases hfurther : ∃ tail, cs = '.' :: tail ∧ StartsDigit tail
    · obtain ⟨tail, rfl, hstart⟩ := hfurther
      obtain ⟨run, behind, rfl, hne, hrun, hbehind⟩ := exists_run hstart
      obtain ⟨more, rest, rfl, hfew, hdigits, hlongest, hall⟩ := ih hbehind
      refine ⟨run :: more, rest, by simp [pointed], by simpa using hfew, ?_, hlongest, ?_⟩
      · exact List.forall_mem_cons.2 ⟨⟨hne, hrun⟩, hdigits⟩
      · intro hroom
        exact hall (by simpa using hroom)
    · refine ⟨[], cs, by simp [pointed], by simp, by simp, h, ?_⟩
      intro _ tail hcs hstart
      exact hfurther ⟨tail, hcs, hstart⟩

/-- The texts that start with a digit are those with parts at the front. -/
theorem startsDigit_iff_front {cs : List Char} :
    StartsDigit cs ↔ ∃ parts rest, Front cs parts rest := by
  constructor
  · intro hstart
    obtain ⟨part, behind, rfl, hne, hrun, hbehind⟩ := exists_run hstart
    obtain ⟨more, rest, rfl, hfew, hdigits, hlongest, hall⟩ := exists_pointed 2 hbehind
    refine ⟨part :: more, rest, ?_, by simp, ?_, ?_, hlongest, ?_⟩
    · rw [intercalate_cons, List.append_assoc]
    · simp only [List.length_cons]
      omega
    · exact List.forall_mem_cons.2 ⟨⟨hne, hrun⟩, hdigits⟩
    · intro hroom
      simp only [List.length_cons] at hroom
      exact hall (by omega)
  · rintro ⟨parts, rest, h⟩
    obtain ⟨part, more, rfl⟩ := List.exists_cons_of_ne_nil h.nonempty
    obtain ⟨hne, hrun⟩ := h.digits part (by simp)
    obtain ⟨c, run, rfl⟩ := List.exists_cons_of_ne_nil hne
    refine ⟨c, ?_, hrun c (by simp)⟩
    rw [h.text, intercalate_cons]
    simp

/-! ## The numbers -/

/-- The number that a run of ASCII digits writes. -/
def value (part : List Char) : Nat := Nat.ofDigitChars 10 part 0

/-- The part is written in ASCII digits, and its number has 64 bits. -/
def Fits (part : List Char) : Prop := (∀ c ∈ part, c.isDigit = true) ∧ value part < UInt64.size

instance (part : List Char) : Decidable (Fits part) :=
  decidable_of_iff (part.all Char.isDigit = true ∧ value part < UInt64.size)
    (by rw [List.all_eq_true, Fits])

/-- The version of up to three numbers; those missing are zero. -/
def ofNumbers (numbers : List Nat) : ServerVersion :=
  ⟨numbers.getD 0 0, numbers.getD 1 0, numbers.getD 2 0⟩

theorem number?_eq {part : List Char} (hne : part ≠ []) (hrun : ∀ c ∈ part, isDigitChar c = true) :
    number? part = if Fits part then some (value part) else none := by
  -- A sign would be read, but a part of digits has none.
  have hplus : part.head? ≠ some '+' := by
    intro h
    have hdigit := hrun '+' (List.mem_of_head? h)
    revert hdigit
    decide
  have hread (n : Nat) : Decimal.readUnsigned64 part = .ok n ↔ Fits part ∧ value part = n := by
    rw [Decimal.readUnsigned64, Decimal.readNatural_eq_ok_iff hne hplus,
      Decimal.le_maxUnsigned64_iff, Fits, value]
    constructor
    · rintro ⟨hdigits, rfl, hfits⟩
      exact ⟨⟨hdigits, hfits⟩, rfl⟩
    · rintro ⟨⟨hdigits, hfits⟩, rfl⟩
      exact ⟨hdigits, rfl, hfits⟩
  split
  · rename_i hfits
    rw [number?, (hread (value part)).2 ⟨hfits, rfl⟩]
    rfl
  · rename_i hnot
    cases hresult : Decimal.readUnsigned64 part with
    | error fault => rw [number?, hresult]; rfl
    | ok n => exact absurd ((hread n).1 hresult).1 hnot

/-- **The parts of a version are read exactly:** all of them or none. -/
theorem ofParts?_eq {parts : List (List Char)} (hsome : parts ≠ []) (hfew : parts.length ≤ 3)
    (hdigits : ∀ part ∈ parts, part ≠ [] ∧ ∀ c ∈ part, isDigitChar c = true) :
    ofParts? parts =
      if ∀ part ∈ parts, Fits part then some (ofNumbers (parts.map value)) else none := by
  have hnumber : ∀ part ∈ parts, number? part = if Fits part then some (value part) else none :=
    fun part hpart => number?_eq (hdigits part hpart).1 (hdigits part hpart).2
  match parts with
  | [] => exact absurd rfl hsome
  | [a] =>
    by_cases ha : Fits a <;> simp [ofParts?, ofNumbers, hnumber, ha]
  | [a, b] =>
    by_cases ha : Fits a <;> by_cases hb : Fits b <;> simp [ofParts?, ofNumbers, hnumber, ha, hb]
  | [a, b, c] =>
    by_cases ha : Fits a <;> by_cases hb : Fits b <;> by_cases hc : Fits c <;>
      simp [ofParts?, ofNumbers, hnumber, ha, hb, hc]
  | _ :: _ :: _ :: _ :: _ =>
    simp only [List.length_cons] at hfew
    omega

/-- A point is no digit, so a text made of the parts is split into them again. -/
theorem readTolerant?_intercalate {parts : List (List Char)} (hsome : parts ≠ [])
    (hdigits : ∀ part ∈ parts, part ≠ [] ∧ ∀ c ∈ part, isDigitChar c = true) :
    readTolerant? (String.ofList (['.'].intercalate parts)) = ofParts? parts := by
  have hpoint : ∀ part ∈ parts, '.' ∉ part := by
    intro part hpart hmem
    have hdigit := (hdigits part hpart).2 '.' hmem
    revert hdigit
    decide
  rw [readTolerant?, String.toList_ofList, List.splitOn_intercalate '.' hpoint hsome]

/-! ## Both readers -/

/-- Behind a word and a space trimming leaves what it leaves of the text alone. -/
theorem trim_behind_word {word text : List Char} (hne : word ≠ [])
    (hword : ∀ c ∈ word, isWordChar c = true) (htext : ∀ c ∈ text.head?, isBlank c = false) :
    trim (word ++ ' ' :: text) = if text = [] then word else word ++ ' ' :: trim text := by
  have hhead : ∀ c ∈ word.head?, isBlank c = false :=
    fun c hc => not_isBlank_of_isWordChar (hword c (List.mem_of_head? hc))
  have hlast : ∀ c ∈ word.getLast?, isBlank c = false :=
    fun c hc => not_isBlank_of_isWordChar (hword c (List.mem_of_getLast? hc))
  cases text with
  | nil =>
    have hblank : trimEnd [' '] = [] := by decide
    rw [if_pos rfl, trim_append hne hhead hlast, hblank, List.append_nil]
  | cons c rest =>
    have hc : isBlank c = false := htext c rfl
    have hfront : trim (word ++ [' ', c] ++ rest) = word ++ [' ', c] ++ trimEnd rest := by
      apply trim_append (by simp)
      · obtain ⟨d, word, rfl⟩ := List.exists_cons_of_ne_nil hne
        simpa using hhead
      · simpa using hc
    -- Trimming works on the end alone, so it does to the text what it does to the whole.
    have halone : trim ([c] ++ rest) = [c] ++ trimEnd rest := by
      apply trim_append (by simp) <;> simpa using hc
    rw [List.singleton_append] at halone
    rw [if_neg (by simp), halone]
    simpa using hfront

/-- A word and a space are skipped. -/
theorem readVerbose?_of_trim {s : String} {word rest : List Char} (hne : word ≠ [])
    (hword : ∀ c ∈ word, isWordChar c = true) (h : trim s.toList = word ++ ' ' :: rest) :
    readVerbose? s = readFront? rest := by
  have hspace : isWordChar ' ' = false := by decide +kernel
  have hrest : ∀ c ∈ (' ' :: rest).head?, isWordChar c = false := by simpa using hspace
  obtain ⟨htake, hdrop⟩ := span_run hword hrest
  obtain ⟨c, word, rfl⟩ := List.exists_cons_of_ne_nil hne
  simp only [readVerbose?, h, htake, hdrop]

/-- A word alone has no version. -/
theorem readVerbose?_of_trim_word {s : String} (hword : ∀ c ∈ trim s.toList, isWordChar c = true) :
    readVerbose? s = none := by
  have hrest : ∀ c ∈ ([] : List Char).head?, isWordChar c = false := by simp
  obtain ⟨-, hdrop⟩ := span_run hword hrest
  rw [List.append_nil] at hdrop
  simp only [readVerbose?, hdrop]
  cases (trim s.toList).takeWhile isWordChar <;> rfl

theorem readVerbose?_word {word text : String} (hne : word ≠ "")
    (hword : ∀ c ∈ word.toList, isWordChar c = true)
    (htext : ∀ c ∈ text.toList.head?, isBlank c = false) :
    readVerbose? (word ++ " " ++ text) = readBare? text := by
  have hsome : word.toList ≠ [] := by simpa using hne
  have hlist : (word ++ " " ++ text).toList = word.toList ++ ' ' :: text.toList := by simp
  have htrim := trim_behind_word hsome hword htext
  rw [← hlist] at htrim
  by_cases hempty : text.toList = []
  · rw [if_pos hempty] at htrim
    have hnone : ¬StartsDigit (trim text.toList) := by
      simp [hempty, StartsDigit, trim, trimStart, trimEnd]
    rw [readVerbose?_of_trim_word (by rwa [htrim]), readBare?, readFront?_eq_none hnone]
  · rw [if_neg hempty] at htrim
    rw [readVerbose?_of_trim hsome hword htrim, readBare?]

/-- **Both readers see the same version and read it exactly.** Behind a product word and a space
stands what is read alone.  Blanks at the ends apart, a text that does not start with a digit has no
version.  Of any other the parts at the front are taken apart at the points, and the version has
their numbers, unless a part has another digit or its number has more than 64 bits: then there is
none. -/
theorem readers_exact :
    (∀ word text : String, word ≠ "" → (∀ c ∈ word.toList, isWordChar c = true) →
      (∀ c ∈ text.toList.head?, isBlank c = false) →
      readVerbose? (word ++ " " ++ text) = readBare? text) ∧
    ∀ text : String,
      (StartsDigit (trim text.toList) ↔ ∃ parts rest, Front (trim text.toList) parts rest) ∧
      (¬StartsDigit (trim text.toList) → readBare? text = none) ∧
      ∀ parts rest, Front (trim text.toList) parts rest →
        readBare? text = readTolerant? (String.ofList (['.'].intercalate parts)) ∧
        readBare? text =
          if ∀ part ∈ parts, Fits part then some (ofNumbers (parts.map value)) else none := by
  refine ⟨fun word text => readVerbose?_word, fun text => ⟨startsDigit_iff_front, ?_, ?_⟩⟩
  · intro h
    exact readFront?_eq_none h
  · intro parts rest h
    have hread : readBare? text = ofParts? parts := readFront?_of_front h
    rw [hread]
    exact ⟨(readTolerant?_intercalate h.nonempty h.digits).symm,
      ofParts?_eq h.nonempty h.few h.digits⟩

/-- A development version behind the product name: a zero in front counts nothing, and what stands
behind the third part is left alone, be it a fourth. -/
theorem readVerbose?_development :
    readVerbose? ("PostgreSQL" ++ " " ++ "9.6.02.7devel") = some ⟨9, 6, 2⟩ := by
  have hproduct : "PostgreSQL".toList.all isWordChar = true := by decide +kernel
  have htext : "9.6.02.7devel".toList =
      ['9', '.', '6', '.', '0', '2', '.', '7', 'd', 'e', 'v', 'e', 'l'] := String.toList_ofList
  have htrim : trim "9.6.02.7devel".toList = "9.6.02.7devel".toList := by decide +kernel
  have hdigits : ['9', '6', '0', '2'].all isDigitChar = true := by decide
  have hrest : isDigitChar '.' = false := by decide
  have hparts : Front (trim "9.6.02.7devel".toList) [['9'], ['6'], ['0', '2']]
      ['.', '7', 'd', 'e', 'v', 'e', 'l'] := by
    rw [htrim, htext]
    refine ⟨rfl, by simp, by simp, ?_, ?_, by simp⟩
    · simpa using hdigits
    · rw [startsDigit_cons, hrest]
      decide
  obtain ⟨hword, hread⟩ := readers_exact
  obtain ⟨-, -, hparse⟩ := hread "9.6.02.7devel"
  rw [hword "PostgreSQL" "9.6.02.7devel" (by decide) (List.all_eq_true.1 hproduct)
    (by rw [htext]; simp; decide), (hparse _ _ hparts).2]
  decide +kernel

end PgVitals.ServerVersion

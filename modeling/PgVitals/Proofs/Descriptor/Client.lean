import PgVitals.Descriptor.ClientOptions
import PgVitals.Proofs.Descriptor.Environment
import PgVitals.Proofs.Descriptor.Redacted

/-!
# The client reads what was written

The client reads descriptors by a grammar of its own.  On pairs whose values are quoted the two
grammars agree: the client takes each value as it was before it was quoted, and a pair behind
another.  What it reads is then the options of the pairs, taken into account one after the other,
and since it does not look at passwords, it reads the same from descriptors that differ in
passwords only.
-/

namespace PgVitals

namespace ClientOptions

open Text KeyValue Value

/-! ## Values -/

theorem takeValue_cons {ends : Char → Bool} {c : Char} (hslash : c ≠ '\\') (hc : ends c = false)
    (cs : List Char) :
    takeValue ends (c :: cs) = (c :: (takeValue ends cs).1, (takeValue ends cs).2) := by
  rw [takeValue, if_neg (by simp [hc])]
  all_goals simp_all

theorem takeValue_of_ends {ends : Char → Bool} {c : Char} (hslash : c ≠ '\\') (hc : ends c = true)
    (cs : List Char) : takeValue ends (c :: cs) = ([], c :: cs) := by
  rw [takeValue, if_pos hc]
  all_goals simp_all

/-- An escaped value is taken up to the quote behind it, with its escapes removed. -/
theorem takeValue_escape (cs rest : List Char) :
    takeValue (· == '\'') (cs.flatMap escapeChar ++ '\'' :: rest) = (cs, '\'' :: rest) := by
  induction cs with
  | nil => exact takeValue_of_ends (by decide) rfl rest
  | cons c cs ih =>
    rw [List.flatMap_cons]
    by_cases h : c = '\'' ∨ c = '\\'
    · simp only [escapeChar, if_pos h, List.cons_append, List.nil_append, takeValue, ih]
    · obtain ⟨hquote, hslash⟩ := not_or.1 h
      simp only [escapeChar, if_neg h, List.cons_append, List.nil_append]
      rw [takeValue_cons hslash (by simpa using hquote), ih]

/-- A value without blanks and backslashes is taken up to the blank behind it. -/
theorem takeValue_plain {cs rest : List Char} (hcs : ∀ c ∈ cs, isBlank c = false ∧ c ≠ '\\')
    (hrest : StartsBlank rest) : takeValue isBlank (cs ++ rest) = (cs, rest) := by
  induction cs with
  | nil =>
    cases rest with
    | nil => rfl
    | cons c rest =>
      have hblank : isBlank c = true := startsBlank_cons.1 hrest
      have hslash : c ≠ '\\' := by
        rintro rfl
        exact absurd hblank (by decide)
      exact takeValue_of_ends hslash hblank rest
  | cons c cs ih =>
    obtain ⟨⟨hblank, hslash⟩, hcs⟩ := List.forall_mem_cons.1 hcs
    rw [List.cons_append, takeValue_cons hslash hblank, ih hcs]

/-- The client reads a quoted value as the value. -/
theorem value?_quoteChars (cs : List Char) {rest : List Char} (hrest : StartsBlank rest) :
    value? (quoteChars cs ++ rest) = some (cs, rest) := by
  obtain hquoted | ⟨hplain, hne, hchars⟩ := quoteChars_cases cs
  · rw [hquoted, List.cons_append, List.append_assoc, List.singleton_append, value?,
      takeValue_escape]
    rfl
  · have htake : takeValue isBlank (cs ++ rest) = (cs, rest) :=
      takeValue_plain (fun c hc => ⟨(hchars c hc).1, (hchars c hc).2.2⟩) hrest
    obtain ⟨c, tail, rfl⟩ := List.exists_cons_of_ne_nil hne
    have hquote : c ≠ '\'' := (hchars c List.mem_cons_self).2.1
    rw [hplain, value?, htake]
    rintro body hbody
    exact hquote (List.cons.inj hbody).1

/-! ## Pairs -/

/-- Where no character is left but blanks, the reading of pairs ends. -/
theorem readPairs?_of_blank {cs : List Char} (hcs : trimStart cs = []) (o : ClientOptions)
    (fuel : Nat) : readPairs? o fuel cs = some o := by
  cases fuel with
  | zero => rfl
  | succ fuel =>
    rw [readPairs?, hcs]
    rfl

/-- A pair with a quoted value is read off the front of the text, and the option taken into
account. -/
theorem readPairs?_succ {key value : String} (hkey : IsKey key) {cs after : List Char}
    (hcs : trimStart cs = key.toList ++ '=' :: (quoteChars value.toList ++ after))
    (hafter : StartsBlank after) (o : ClientOptions) (fuel : Nat) :
    readPairs? o (fuel + 1) cs = (o.set? key value).bind fun o => readPairs? o fuel after := by
  obtain ⟨c, front, hfront⟩ := List.exists_cons_of_ne_nil hkey.1
  have hall : ∀ c ∈ key.toList, isKeyChar c = true := List.all_eq_true.1 hkey.2
  -- The client has its own reader; on quoted pairs it reads what the descriptor's reader does, part
  -- by part: the key, the equals sign, the value.
  have hchar : (fun c => !isBlank c && c != '=') = isKeyChar := by
    funext c
    rw [isKeyChar, Bool.and_comm]
  have htake : (key.toList ++ '=' :: (quoteChars value.toList ++ after)).takeWhile isKeyChar =
      key.toList := (span_run hall (by simp [isKeyChar])).1
  have hdrop : (key.toList ++ '=' :: (quoteChars value.toList ++ after)).drop key.toList.length =
      '=' :: (quoteChars value.toList ++ after) := List.drop_left
  have hequals : trimStart ('=' :: (quoteChars value.toList ++ after)) =
      '=' :: (quoteChars value.toList ++ after) := trimStart_cons (by decide) _
  have hvalue :
      trimStart (quoteChars value.toList ++ after) = quoteChars value.toList ++ after := by
    apply trimStart_eq_self
    intro c hc
    obtain ⟨d, tail, hquoted⟩ := List.exists_cons_of_ne_nil (quoteChars_ne_nil value.toList)
    rw [hquoted] at hc
    refine (isRaw_quoteChars value.toList).isBlank_head? ?_
    rw [hquoted]
    exact hc
  rw [readPairs?]
  simp only [hcs, hchar, htake]
  rw [hfront]
  simp only [← hfront, hdrop, hequals, hvalue, value?_quoteChars _ hafter, String.ofList_toList]
  cases o.set? key value <;> rfl

theorem quotedPairs_cons (option : String × String) (options : List (String × String)) :
    quotedPairs (option :: options) = ⟨option.1, quote option.2⟩ :: quotedPairs options := rfl

/-- Takes options into account from left to right. -/
def setAll? (o : ClientOptions) (options : List (String × String)) : Option ClientOptions :=
  options.foldlM (fun o option => o.set? option.1 option.2) o

/-- The client reads the pairs whose values were quoted, whatever the values are. -/
theorem readPairs?_chars {options : List (String × String)}
    (hkeys : ∀ option ∈ options, IsKey option.1) {fuel : Nat} (hfuel : options.length ≤ fuel)
    {cs : List Char} (hcs : trimStart cs = chars (quotedPairs options)) (o : ClientOptions) :
    readPairs? o fuel cs = o.setAll? options := by
  induction options generalizing fuel cs o with
  | nil => exact readPairs?_of_blank hcs o fuel
  | cons option options ih =>
    obtain ⟨key, value⟩ := option
    obtain ⟨hkey, hkeys⟩ := List.forall_mem_cons.1 hkeys
    obtain ⟨fuel, rfl⟩ : ∃ n, fuel = n + 1 := Nat.exists_eq_add_one.2 (by simp at hfuel; omega)
    let after : List Char :=
      if quotedPairs options = [] then [] else ' ' :: chars (quotedPairs options)
    have hpair : trimStart cs = key.toList ++ '=' :: (quoteChars value.toList ++ after) := by
      rw [hcs, quotedPairs_cons, chars_cons, toList_text, List.append_assoc, List.cons_append,
        Value.quote, String.toList_ofList]
    have hafter : StartsBlank after ∧ trimStart after = chars (quotedPairs options) := by
      have hstart : trimStart (chars (quotedPairs options)) = chars (quotedPairs options) :=
        trimStart_eq_self fun _ hc =>
          Descriptor.isBlank_head?_chars (isWritten_quotedPairs hkeys) hc
      cases options with
      | nil => exact ⟨startsBlank_nil, rfl⟩
      | cons next options => exact ⟨startsBlank_cons.2 (by decide), hstart⟩
    rw [readPairs?_succ hkey hpair hafter.1, setAll?, List.foldlM_cons]
    congr 1
    funext o
    exact ih hkeys (by simpa using hfuel) hafter.2 o

/-! ## Descriptors -/

theorem length_le_length_chars (pairs : List Pair) : pairs.length ≤ (chars pairs).length := by
  induction pairs with
  | nil => simp
  | cons p rest ih =>
    rw [chars_cons, toList_text]
    split
    · rename_i hnil
      simp only [hnil, List.length_cons, List.length_nil, List.length_append]
      omega
    · simp only [List.length_cons, List.length_append]
      omega

/-- A text of pairs with quoted values is read by the client as by the reader of descriptors. -/
theorem read?_text_quotedPairs {options : List (String × String)}
    (hread : Descriptor.read (text ⟨quotedPairs options⟩) = .ok (.keyValue ⟨quotedPairs options⟩)) :
    read? (text ⟨quotedPairs options⟩) = setAll? {} options := by
  obtain ⟨hwritten, p, rest, hpairs, hopens⟩ := Descriptor.pairs_of_read hread
  have hkeys : ∀ option ∈ options, IsKey option.1 := by
    intro option hoption
    have hp := hwritten.each _ (List.mem_map_of_mem hoption)
    exact ⟨hp.key_ne_nil, List.all_eq_true.2 hp.isKeyChar⟩
  have hchars : (text ⟨quotedPairs options⟩).toList = chars (quotedPairs options) :=
    toList_text_eq_chars _
  have hdrop : ∀ scheme : Scheme,
      dropStart? scheme.text.toList (chars (quotedPairs options)) = none := by
    intro scheme
    have hcons : quotedPairs options = p :: rest := hpairs
    rw [hcons, chars_cons, toList_text, List.append_assoc, List.cons_append,
      Descriptor.dropStart?_scheme_eq_none_iff (by decide)]
    exact hopens.not_prefix scheme
  -- The fuel of the client's reader is the length of the text, and each option takes characters.
  have hlength : options.length ≤ (chars (quotedPairs options)).length + 1 := by
    have hle := length_le_length_chars (quotedPairs options)
    rw [quotedPairs, List.length_map, ← quotedPairs] at hle
    omega
  have hstart : trimStart (chars (quotedPairs options)) = chars (quotedPairs options) :=
    trimStart_eq_self fun _ hc => Descriptor.isBlank_head?_chars hwritten hc
  rw [read?, hchars]
  simp only [show "postgres://" = Scheme.postgres.text from rfl,
    show "postgresql://" = Scheme.postgresql.text from rfl, hdrop, Option.or_none]
  exact readPairs?_chars hkeys hlength hstart {}

/-! ## Passwords -/

theorem set?_passwordKey (o : ClientOptions) (value : String) :
    o.set? passwordKey value = some o := by
  rw [set?, if_pos (by decide +kernel)]

/-- Quoting keeps apart what is apart. -/
theorem sameButPasswords_quotedPairs_iff {options options' : List (String × String)} :
    SameButPasswords ⟨quotedPairs options⟩ ⟨quotedPairs options'⟩ ↔
      List.Forall₂ (fun x y => x.1 = y.1 ∧ (x.1 ≠ passwordKey → x.2 = y.2)) options options' := by
  have hquote : ∀ s t : String, quote s = quote t ↔ s = t := fun _ _ => quote_injective.eq_iff
  simp only [SameButPasswords, quotedPairs, List.forall₂_map_left_iff, List.forall₂_map_right_iff,
    hquote]

/-- The client does not look at passwords. -/
theorem setAll?_congr {options options' : List (String × String)}
    (h : List.Forall₂ (fun x y => x.1 = y.1 ∧ (x.1 ≠ passwordKey → x.2 = y.2)) options options')
    (o : ClientOptions) : o.setAll? options = o.setAll? options' := by
  induction h generalizing o with
  | nil => rfl
  | @cons x y options options' hxy hrest ih =>
    have hset : o.set? x.1 x.2 = o.set? y.1 y.2 := by
      rw [← hxy.1]
      by_cases hpassword : x.1 = passwordKey
      · rw [hpassword, set?_passwordKey, set?_passwordKey]
      · rw [hxy.2 hpassword]
    rw [setAll?, setAll?, List.foldlM_cons, List.foldlM_cons, hset]
    congr 1
    funext o
    exact ih o

/-- **The client reads the same from descriptors that differ in passwords only.** -/
theorem read?_congr {options options' : List (String × String)}
    (hread : Descriptor.read (text ⟨quotedPairs options⟩) = .ok (.keyValue ⟨quotedPairs options⟩))
    (hread' : Descriptor.read (text ⟨quotedPairs options'⟩) =
      .ok (.keyValue ⟨quotedPairs options'⟩))
    (h : SameButPasswords ⟨quotedPairs options⟩ ⟨quotedPairs options'⟩) :
    read? (text ⟨quotedPairs options⟩) = read? (text ⟨quotedPairs options'⟩) := by
  rw [read?_text_quotedPairs hread, read?_text_quotedPairs hread',
    setAll?_congr (sameButPasswords_quotedPairs_iff.1 h)]

end ClientOptions

end PgVitals

import PgVitals.Proofs.Descriptor.Pairs

/-!
# The grammar of pairs

A text of pairs is a sequence of tokens and blanks behind the last of them.  A token has a key, an
equals sign and a value, with blanks allowed before the key and on either side of the equals sign.
A value is quoted, or it is a run of characters as long as it can be.  The main statements are that
a text has one derivation at most, and that reading returns the pairs of its derivation, and refuses
the text when there is none.
-/

namespace PgVitals.KeyValue

open Text

/-! ## The grammar -/

/-- A value as written, and what follows it in the text. -/
inductive IsValue : List Char → List Char → Prop
  /-- Behind a quoted value anything may follow, also the next token. -/
  | quoted {cs : List Char} (after : List Char) : IsQuotedTail cs → IsValue ('\'' :: cs) after
  /-- The longest run of characters that are not blank; it is empty only at the end of the text. -/
  | bare {raw after : List Char} : (∀ c ∈ raw.head?, c ≠ '\'') → (∀ c ∈ raw, isBlank c = false) →
      StartsBlank after → (raw = [] → after = []) → IsValue raw after

/-- One pair as it stands in a text. -/
@[ext]
structure Token where
  /-- The blanks before the key. -/
  front : List Char
  key : List Char
  /-- The blanks before the equals sign. -/
  before : List Char
  /-- The blanks behind the equals sign. -/
  behind : List Char
  /-- The value as written. -/
  raw : List Char

namespace Token

/-- The characters of a token. -/
def chars (t : Token) : List Char := t.front ++ (t.key ++ (t.before ++ '=' :: (t.behind ++ t.raw)))

/-- The pair that a token stands for. -/
def pair (t : Token) : Pair := ⟨String.ofList t.key, String.ofList t.raw⟩

/-- The characters form a token when these follow them in the text. -/
structure IsToken (t : Token) (after : List Char) : Prop where
  front : ∀ c ∈ t.front, isBlank c = true
  key_ne_nil : t.key ≠ []
  key : ∀ c ∈ t.key, c ≠ '=' ∧ isBlank c = false
  before : ∀ c ∈ t.before, isBlank c = true
  behind : ∀ c ∈ t.behind, isBlank c = true
  isValue : IsValue t.raw after

end Token

/-- A derivation of a text of pairs: its tokens, and blanks behind them. -/
inductive Derives : List Char → List Token → Prop
  | blank {cs : List Char} : (∀ c ∈ cs, isBlank c = true) → Derives cs []
  | token {t : Token} {after : List Char} {tokens : List Token} : t.IsToken after →
      Derives after tokens → Derives (t.chars ++ after) (t :: tokens)

/-! ## Blanks -/

theorem trimStart_blanks {blanks cs : List Char} (hblanks : ∀ c ∈ blanks, isBlank c = true)
    (hcs : ∀ c ∈ cs.head?, isBlank c = false) : trimStart (blanks ++ cs) = cs := by
  rw [trimStart_append hblanks, trimStart_eq_self hcs]

/-! ## Values -/

/-- The longest run without blanks is a value when no quote starts the text. -/
theorem isValue_run {cs : List Char} (hcs : ∀ c ∈ cs.head?, isBlank c = false)
    (hquote : ∀ rest, cs ≠ '\'' :: rest) :
    IsValue (cs.takeWhile (!isBlank ·)) (cs.dropWhile (!isBlank ·)) := by
  have hstart : (cs.takeWhile (!isBlank ·)).head? = cs.head? := by
    cases cs with
    | nil => rfl
    | cons c rest => simp [hcs c rfl]
  refine .bare (fun c hc heq => ?_) (fun c hc => ?_) (fun c hc => ?_) (fun hempty => ?_)
  · rw [hstart, heq] at hc
    obtain ⟨rest, hrest⟩ := List.head?_eq_some_iff.1 hc
    exact hquote rest hrest
  · simpa using List.mem_takeWhile_imp hc
  · have hnot := List.head?_dropWhile_not (!isBlank ·) cs
    rw [Option.mem_def.1 hc] at hnot
    simpa using hnot
  · rw [hempty] at hstart
    rw [List.head?_eq_none_iff.1 hstart.symm]
    rfl

/-- A value is read off a text exactly when the text starts with it. -/
theorem readValue?_eq_some_iff {cs raw after : List Char}
    (hcs : ∀ c ∈ cs.head?, isBlank c = false) :
    readValue? cs = some (raw, after) ↔ cs = raw ++ after ∧ IsValue raw after := by
  constructor
  · intro h
    refine ⟨readValue?_eq_append h, ?_⟩
    unfold readValue? at h
    -- A quote in front decides which of the two forms of a value is read.
    split at h
    · simp only [Option.map_eq_some_iff, Prod.mk.injEq, Prod.exists] at h
      obtain ⟨body, rest, hread, rfl, rfl⟩ := h
      exact .quoted _ (readQuoted?_eq_some_iff.1 hread).2
    · rename_i hquote
      obtain ⟨rfl, rfl⟩ : _ = raw ∧ _ = after := by simpa using h
      exact isValue_run hcs hquote
  · rintro ⟨rfl, hvalue⟩
    cases hvalue with
    | quoted _ htail =>
      rw [List.cons_append, readValue?, htail.readQuoted?_append]
      rfl
    | bare hquote hblank hafter _ => exact (isRaw_of_plain hquote hblank).readValue?_append hafter

/-- A value starts with no blank. -/
theorem IsValue.isBlank_head? {raw after : List Char} (h : IsValue raw after) :
    ∀ c ∈ (raw ++ after).head?, isBlank c = false := by
  cases h with
  | quoted _ _ =>
    intro c hc
    obtain rfl : '\'' = c := by simpa using hc
    decide
  | bare _ hblank _ hempty =>
    intro c hc
    cases raw with
    | nil => simp [hempty rfl] at hc
    | cons d raw =>
      obtain rfl : d = c := by simpa using hc
      exact hblank d List.mem_cons_self

/-! ## Tokens -/

namespace Token.IsToken

variable {t t' : Token} {after after' : List Char}

theorem chars_append (t : Token) (after : List Char) :
    t.chars ++ after =
      t.front ++ (t.key ++ (t.before ++ '=' :: (t.behind ++ (t.raw ++ after)))) := by
  simp [Token.chars]

theorem isBlank_head?_key (h : t.IsToken after) (rest : List Char) :
    ∀ c ∈ (t.key ++ rest).head?, isBlank c = false := by
  intro c hc
  obtain ⟨d, key, hkey⟩ := List.exists_cons_of_ne_nil h.key_ne_nil
  rw [hkey, List.cons_append, List.head?_cons, Option.mem_some_iff] at hc
  exact (h.key c (by simp [hkey, hc])).2

theorem isKeyChar_key (h : t.IsToken after) : ∀ c ∈ t.key, isKeyChar c = true :=
  fun c hc => isKeyChar_iff.2 (h.key c hc)

/-- A blank or the equals sign ends the key. -/
theorem isKeyChar_head?_before (h : t.IsToken after) (rest : List Char) :
    ∀ c ∈ (t.before ++ '=' :: rest).head?, isKeyChar c = false := by
  intro c hc
  cases hbefore : t.before with
  | nil =>
    obtain rfl : '=' = c := by simpa [hbefore] using hc
    decide
  | cons d before =>
    obtain rfl : d = c := by simpa [hbefore] using hc
    simp [isKeyChar, h.before d (by simp [hbefore])]

theorem isBlank_head?_equals (rest : List Char) :
    ∀ c ∈ ('=' :: rest).head?, isBlank c = false := by
  intro c hc
  obtain rfl : '=' = c := by simpa using hc
  decide

theorem readValue?_append (h : t.IsToken after) :
    readValue? (t.raw ++ after) = some (t.raw, after) :=
  (readValue?_eq_some_iff h.isValue.isBlank_head?).2 ⟨rfl, h.isValue⟩

/-- **A text starts with one token at most.** -/
theorem inj (h : t.IsToken after) (h' : t'.IsToken after')
    (hcs : t.chars ++ after = t'.chars ++ after') : t = t' ∧ after = after' := by
  rw [chars_append, chars_append] at hcs
  -- Part by part from the left: each is a run that the next one ends, so it is the same run.
  obtain ⟨hfront, hcs⟩ := run_inj hcs h.front (h.isBlank_head?_key _) h'.front
    (h'.isBlank_head?_key _)
  obtain ⟨hkey, hcs⟩ := run_inj hcs h.isKeyChar_key (h.isKeyChar_head?_before _) h'.isKeyChar_key
    (h'.isKeyChar_head?_before _)
  obtain ⟨hbefore, hcs⟩ := run_inj hcs h.before (isBlank_head?_equals _) h'.before
    (isBlank_head?_equals _)
  obtain ⟨hbehind, hcs⟩ := run_inj (List.cons.inj hcs).2 h.behind h.isValue.isBlank_head? h'.behind
    h'.isValue.isBlank_head?
  have hvalue := h.readValue?_append
  rw [hcs, h'.readValue?_append, Option.some.injEq, Prod.mk.injEq] at hvalue
  obtain ⟨hraw, hafter⟩ := hvalue
  exact ⟨Token.ext hfront hkey hbefore hbehind hraw.symm, hafter.symm⟩

end Token.IsToken

/-- **A pair is read off a text exactly when the text starts with a token of it.** -/
theorem readPair_trimStart_eq_ok_iff {cs after : List Char} {p : Pair} :
    readPair (trimStart cs) = .ok (p, after) ↔
      ∃ t : Token, t.IsToken after ∧ t.pair = p ∧ cs = t.chars ++ after := by
  constructor
  · intro h
    obtain ⟨gap, rest, hcs, hgap, hvalue, hne, hkey⟩ := readPair_eq_ok h
    obtain ⟨front, hfront, hfront_cs⟩ := exists_blanks cs
    obtain ⟨before, hbefore, hbefore_gap⟩ := exists_blanks gap
    obtain ⟨behind, hbehind, hbehind_rest⟩ := exists_blanks rest
    obtain ⟨hraw, hisValue⟩ :=
      (readValue?_eq_some_iff fun c hc => isBlank_of_mem_head?_trimStart hc).1 hvalue
    refine ⟨⟨front, p.key.toList, before, behind, p.raw.toList⟩,
      ⟨hfront, hne, fun c hc => isKeyChar_iff.1 (hkey c hc), hbefore, hbehind, hisValue⟩,
      by simp [Token.pair], ?_⟩
    calc
      cs = front ++ (p.key.toList ++ (before ++ '=' :: (behind ++ (p.raw.toList ++ after)))) := by
        rw [← hraw, ← hbehind_rest, ← hgap, ← hbefore_gap, ← hcs, ← hfront_cs]
      _ = _ := by simp [Token.chars]
  · rintro ⟨t, ht, rfl, rfl⟩
    obtain ⟨htake, hdrop⟩ := span_run ht.isKeyChar_key (ht.isKeyChar_head?_before _)
    have hequals : trimStart (t.before ++ '=' :: (t.behind ++ (t.raw ++ after))) =
        '=' :: (t.behind ++ (t.raw ++ after)) :=
      trimStart_blanks ht.before (Token.IsToken.isBlank_head?_equals _)
    have hvalue : readValue? (trimStart (t.behind ++ (t.raw ++ after))) = some (t.raw, after) := by
      rw [trimStart_blanks ht.behind ht.isValue.isBlank_head?, ht.readValue?_append]
    obtain ⟨d, key, hd⟩ := List.exists_cons_of_ne_nil ht.key_ne_nil
    rw [Token.IsToken.chars_append, trimStart_blanks ht.front (ht.isBlank_head?_key _)]
    dsimp only [readPair]
    rw [htake, hdrop, hequals, hd]
    simp only [hvalue]
    rw [← hd]
    rfl

/-! ## Derivations -/

/-- **Reading accepts exactly the texts with a derivation** and returns the pairs of the tokens. -/
theorem readPairs_eq_ok_iff {cs : List Char} {pairs : List Pair} :
    readPairs cs = .ok pairs ↔ ∃ tokens, Derives cs tokens ∧ tokens.map Token.pair = pairs := by
  constructor
  · intro h
    -- On the pairs read, one for each token; the other direction is on the derivation.
    induction pairs generalizing cs with
    | nil =>
      obtain ⟨hblank, -⟩ | ⟨_, _, _, hcons, -⟩ := readPairs_eq_ok h
      · exact ⟨[], .blank (List.dropWhile_eq_nil_iff.1 hblank), rfl⟩
      · cases hcons
    | cons p rest ih =>
      obtain ⟨-, hnil⟩ | ⟨_, _, after, hcons, hpair, hrest⟩ := readPairs_eq_ok h
      · cases hnil
      · obtain ⟨rfl, rfl⟩ := List.cons.inj hcons
        obtain ⟨t, ht, rfl, rfl⟩ := readPair_trimStart_eq_ok_iff.1 hpair
        obtain ⟨tokens, hderives, hmap⟩ := ih hrest
        exact ⟨t :: tokens, .token ht hderives, by rw [List.map_cons, hmap]⟩
  · rintro ⟨tokens, hderives, rfl⟩
    induction hderives with
    | blank hblank => exact readPairs_of_blank (List.dropWhile_eq_nil_iff.2 hblank)
    | token ht _ ih =>
      rw [readPairs_eq_map (readPair_trimStart_eq_ok_iff.2 ⟨_, ht, rfl, rfl⟩), ih]
      rfl

/-- Blanks are no token. -/
theorem Token.IsToken.not_blank {t : Token} {after : List Char} (h : t.IsToken after) :
    ¬∀ c ∈ t.chars ++ after, isBlank c = true := by
  intro hblank
  obtain ⟨c, hc⟩ := List.exists_mem_of_ne_nil _ h.key_ne_nil
  have hkey := (h.key c hc).2
  rw [hblank c (by simp [Token.chars, hc])] at hkey
  cases hkey

/-- **A text has one derivation at most.** -/
theorem derives_unique {cs : List Char} {tokens tokens' : List Token} (h : Derives cs tokens)
    (h' : Derives cs tokens') : tokens = tokens' := by
  induction h generalizing tokens' with
  | blank hblank =>
    cases h' with
    | blank _ => rfl
    | token ht' _ => exact absurd hblank ht'.not_blank
  | @token t after tokens ht _ ih =>
    generalize hcs : t.chars ++ after = cs at h'
    cases h' with
    | blank hblank => exact absurd (hcs ▸ hblank) ht.not_blank
    | token ht' hrest' =>
      obtain ⟨rfl, rfl⟩ := ht.inj ht' hcs
      rw [ih hrest']

end PgVitals.KeyValue

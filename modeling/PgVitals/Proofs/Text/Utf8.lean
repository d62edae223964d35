import Mathlib.Tactic.SplitIfs
import PgVitals.Proofs.Text.ByteOrder

/-!
# Reading the bytes of a text gives the text

The bytes of a character are read as that character, whatever follows them, and nothing of what
follows is used up.  So the bytes of a text are read as that text, with no replacement.
-/

namespace PgVitals.Text.Utf8

/-! ## The classes of bytes -/

theorem between_iff {low b high : Nat} : (low ≤ b && b ≤ high) = true ↔ low ≤ b ∧ b ≤ high := by
  simp only [Bool.and_eq_true, decide_eq_true_eq]

theorem isContinuation_tail (v : Nat) : isContinuation (v % 64 + 0x80) = true :=
  between_iff.2 (by omega)

/-- The second byte of three excludes overlong forms and surrogates. -/
theorem secondAllowed_of_three {v : Nat} (hlow : 0x7ff < v) (hhigh : v ≤ 0xffff)
    (hvalid : v < 0xd800 ∨ 0xdfff < v) :
    secondAllowed (v / 4096 + 0xe0) (v / 64 % 64 + 0x80) = true := by
  unfold secondAllowed isContinuation
  split_ifs <;> rw [between_iff] <;> omega

/-- The second byte of four excludes overlong forms and what is beyond the last code point. -/
theorem secondAllowed_of_four {v : Nat} (hlow : 0xffff < v) (hhigh : v < 0x110000) :
    secondAllowed (v / 262144 + 0xf0) (v / 4096 % 64 + 0x80) = true := by
  unfold secondAllowed isContinuation
  split_ifs <;> rw [between_iff] <;> omega

/-! ## One character -/

/-- A code point is read off its bytes, whatever follows. -/
theorem decodeOne_encoded {v : Nat} (hvalid : v < 0xd800 ∨ 0xdfff < v) (hlt : v < 0x110000)
    (rest : List Nat) :
    ∃ b more, encoded v = b :: more ∧ decodeOne b (more ++ rest) = (Char.ofNat v, more.length) := by
  -- By the number of bytes; the ranges of the second byte leave out long forms and surrogates.
  obtain ⟨h, he⟩ | ⟨h, h', he⟩ | ⟨h, h', he⟩ | ⟨h, he⟩ := encoded_cases v
  · refine ⟨_, _, he, ?_⟩
    rw [decodeOne.eq_def, if_pos (by omega)]
    rfl
  · refine ⟨_, _, he, ?_⟩
    have hvalue : (v / 64 + 0xc0 - 0xC0) * 64 + (v % 64 + 0x80 - 0x80) = v := by omega
    rw [decodeOne.eq_def, if_neg (by omega), if_pos (between_iff.2 (by omega))]
    simp only [List.cons_append, isContinuation_tail, if_true, hvalue]
    rfl
  · refine ⟨_, _, he, ?_⟩
    have hvalue : ((v / 4096 + 0xe0 - 0xE0) * 64 + (v / 64 % 64 + 0x80 - 0x80)) * 64 +
        (v % 64 + 0x80 - 0x80) = v := by omega
    rw [decodeOne.eq_def, if_neg (by omega), if_neg (mt between_iff.1 (by omega)),
      if_pos (between_iff.2 (by omega))]
    simp only [List.cons_append, isContinuation_tail, secondAllowed_of_three h h' hvalid, if_true,
      hvalue]
    rfl
  · refine ⟨_, _, he, ?_⟩
    have hvalue : (((v / 262144 + 0xf0 - 0xF0) * 64 + (v / 4096 % 64 + 0x80 - 0x80)) * 64 +
        (v / 64 % 64 + 0x80 - 0x80)) * 64 + (v % 64 + 0x80 - 0x80) = v := by omega
    rw [decodeOne.eq_def, if_neg (by omega), if_neg (mt between_iff.1 (by omega)),
      if_neg (mt between_iff.1 (by omega)), if_pos (between_iff.2 (by omega))]
    simp only [List.cons_append, isContinuation_tail, secondAllowed_of_four h hlt, if_true, hvalue]
    rfl

/-! ## ASCII bytes -/

theorem decodeOne_of_ascii {a : Nat} (ha : a < 0x80) (rest : List Nat) :
    decodeOne a rest = (Char.ofNat a, 0) := by
  rw [decodeOne.eq_def, if_pos ha]

theorem secondAllowed_of_ascii {a : Nat} (ha : a < 0x80) (first : Nat) :
    secondAllowed first a = false := by
  unfold secondAllowed isContinuation
  split_ifs <;> rw [← Bool.not_eq_true, between_iff] <;> omega

/-- A sequence ends before an ASCII byte at the latest, and does not depend on what is from there
on. -/
theorem decodeOne_append_ascii {a : Nat} (ha : a < 0x80) (b : Nat) (front rest : List Nat) :
    decodeOne b (front ++ a :: rest) = decodeOne b front ∧
      (decodeOne b front).2 ≤ front.length := by
  have hcontinues : isContinuation a = false := by
    rw [← Bool.not_eq_true, isContinuation, between_iff]
    omega
  have hsecond := secondAllowed_of_ascii ha b
  match front with
  | [] | [_] | [_, _] | _ :: _ :: _ :: _ =>
    simp only [decodeOne, hcontinues, hsecond, List.nil_append, List.cons_append, List.length_cons,
      List.length_nil, Bool.false_eq_true, if_false]
    split_ifs <;> simp

/-- An ASCII byte is read as its character wherever it stands. -/
theorem decode_append_ascii {a : Nat} (ha : a < 0x80) (front rest : List Nat) :
    decode (front ++ a :: rest) = decode front ++ Char.ofNat a :: decode rest := by
  fun_induction decode front with
  | case1 => rw [List.nil_append, decode, decodeOne_of_ascii ha]; rfl
  | case2 b front c used hone ih =>
    obtain ⟨hsame, hused⟩ := decodeOne_append_ascii ha b front rest
    rw [hone] at hsame hused
    rw [List.cons_append, decode, hsame]
    simp only [List.drop_append_of_le_length hused, ih, List.cons_append]

/-! ## Texts -/

/-- **Reading undoes writing:** the bytes of a text are read as that text. -/
theorem decode_bytesOf (cs : List Char) : decode (bytesOf cs) = cs := by
  induction cs with
  | nil => rw [bytesOf, List.flatMap_nil, decode]
  | cons c cs ih =>
    have hvalid : c.val.toNat < 0xd800 ∨ 0xdfff < c.val.toNat := c.valid.imp id And.left
    obtain ⟨b, more, hbytes, hone⟩ := decodeOne_encoded hvalid (toNat_val_lt c) (bytesOf cs)
    rw [bytesOf_cons, hbytes, List.cons_append, decode, hone]
    simp only [List.drop_left, ih]
    rw [← Char.toNat, Char.ofNat_toNat]

theorem lt_of_mem_bytesOf {cs : List Char} {b : Nat} (h : b ∈ bytesOf cs) : b < 256 := by
  obtain ⟨c, -, hc⟩ := List.mem_flatMap.1 h
  obtain ⟨byte, -, rfl⟩ := List.mem_map.1 hc
  exact byte.toNat_lt

/-- The bytes of ASCII characters are their code points. -/
theorem bytesOf_of_ascii {cs : List Char} (h : ∀ c ∈ cs, c.toNat < 0x80) :
    bytesOf cs = cs.map Char.toNat := by
  induction cs with
  | nil => rfl
  | cons c cs ih =>
    have hc : c.val.toNat ≤ 0x7f := Nat.le_of_lt_succ (h c List.mem_cons_self)
    have hone : encoded c.val.toNat = [c.toNat] := if_pos hc
    rw [bytesOf_cons, hone, ih fun d hd => h d (List.mem_cons_of_mem _ hd)]
    rfl

end PgVitals.Text.Utf8

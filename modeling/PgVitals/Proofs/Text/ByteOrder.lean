import PgVitals.Text.Utf8

/-!
# The order of texts and of their bytes

A first character with a smaller code point gives smaller bytes, whatever follows: no encoding is
the beginning of another one, and encodings compare as the code points do.  So texts compare as
their bytes do, which is the order in which entries under texts are listed.
-/

namespace PgVitals.Text.Utf8

/-! ## One character -/

/-- The bytes of a code point. -/
def encoded (v : Nat) : List Nat :=
  if v ≤ 0x7f then [v]
  else if v ≤ 0x7ff then [v / 64 + 0xc0, v % 64 + 0x80]
  else if v ≤ 0xffff then [v / 4096 + 0xe0, v / 64 % 64 + 0x80, v % 64 + 0x80]
  else [v / 262144 + 0xf0, v / 4096 % 64 + 0x80, v / 64 % 64 + 0x80, v % 64 + 0x80]

theorem encoded_cases (v : Nat) :
    (v ≤ 0x7f ∧ encoded v = [v]) ∨
      (0x7f < v ∧ v ≤ 0x7ff ∧ encoded v = [v / 64 + 0xc0, v % 64 + 0x80]) ∨
      (0x7ff < v ∧ v ≤ 0xffff ∧
        encoded v = [v / 4096 + 0xe0, v / 64 % 64 + 0x80, v % 64 + 0x80]) ∨
      (0xffff < v ∧ encoded v =
        [v / 262144 + 0xf0, v / 4096 % 64 + 0x80, v / 64 % 64 + 0x80, v % 64 + 0x80]) := by
  unfold encoded
  by_cases h1 : v ≤ 0x7f
  · exact Or.inl ⟨h1, if_pos h1⟩
  · by_cases h2 : v ≤ 0x7ff
    · exact Or.inr (Or.inl ⟨by omega, h2, by rw [if_neg h1, if_pos h2]⟩)
    · by_cases h3 : v ≤ 0xffff
      · exact Or.inr (Or.inr (Or.inl ⟨by omega, h3, by rw [if_neg h1, if_neg h2, if_pos h3]⟩))
      · exact Or.inr (Or.inr (Or.inr ⟨by omega, by rw [if_neg h1, if_neg h2, if_neg h3]⟩))

theorem toNat_val_lt (c : Char) : c.val.toNat < 0x110000 := by
  obtain h | ⟨-, h⟩ := c.valid
  · exact Nat.lt_trans h (by decide)
  · exact h

theorem map_utf8EncodeChar (c : Char) :
    (String.utf8EncodeChar c).map UInt8.toNat = encoded c.val.toNat := by
  have hlt := toNat_val_lt c
  rw [String.utf8EncodeChar, encoded]
  generalize c.val.toNat = v at hlt
  by_cases h1 : v ≤ 0x7f
  · rw [if_pos h1, if_pos h1]
    simp only [List.map_cons, List.map_nil, UInt8.toNat_ofNat']
    rw [Nat.mod_eq_of_lt (by omega)]
  · rw [if_neg h1, if_neg h1]
    by_cases h2 : v ≤ 0x7ff
    · rw [if_pos h2, if_pos h2]
      simp only [List.map_cons, List.map_nil, UInt8.toNat_ofNat', List.cons.injEq, and_true]
      omega
    · rw [if_neg h2, if_neg h2]
      by_cases h3 : v ≤ 0xffff
      · rw [if_pos h3, if_pos h3]
        simp only [List.map_cons, List.map_nil, UInt8.toNat_ofNat', List.cons.injEq, and_true]
        omega
      · rw [if_neg h3, if_neg h3]
        simp only [List.map_cons, List.map_nil, UInt8.toNat_ofNat', List.cons.injEq, and_true]
        omega

/-- The first byte in which two encodings differ comes before either of them ends. -/
theorem encoded_append_lt {v w : Nat} (h : v < w) (s t : List Nat) :
    encoded v ++ s < encoded w ++ t := by
  obtain ⟨hv, hev⟩ | ⟨hv, hv', hev⟩ | ⟨hv, hv', hev⟩ | ⟨hv, hev⟩ := encoded_cases v <;>
    obtain ⟨hw, hew⟩ | ⟨hw, hw', hew⟩ | ⟨hw, hw', hew⟩ | ⟨hw, hew⟩ := encoded_cases w <;>
      rw [hev, hew] <;> simp only [List.cons_append, List.nil_append, List.cons_lt_cons_iff] <;>
        omega

/-! ## Texts -/

theorem bytesOf_cons (c : Char) (cs : List Char) :
    bytesOf (c :: cs) = encoded c.val.toNat ++ bytesOf cs := by
  rw [← map_utf8EncodeChar]
  rfl

theorem bytesOf_lt {cs ds : List Char} (h : cs < ds) : bytesOf cs < bytesOf ds := by
  induction cs generalizing ds with
  | nil =>
    cases ds with
    | nil => exact absurd h (List.lt_irrefl _)
    | cons d ds =>
      rw [bytesOf_cons]
      obtain ⟨-, hd⟩ | ⟨-, -, hd⟩ | ⟨-, -, hd⟩ | ⟨-, hd⟩ := encoded_cases d.val.toNat <;>
        rw [hd] <;> exact List.nil_lt_cons _ _
  | cons c cs ih =>
    cases ds with
    | nil => exact absurd h (List.not_lt_nil _)
    | cons d ds =>
      rw [bytesOf_cons, bytesOf_cons]
      -- The first characters that differ decide, and so do the first bytes of these.
      obtain hlt | ⟨rfl, hlt⟩ := List.cons_lt_cons_iff.1 h
      · exact encoded_append_lt hlt _ _
      · exact List.append_left_lt (ih hlt)

/-- Texts in ascending order have bytes in ascending order. -/
theorem bytesOf_toList_lt {a b : String} (h : a < b) : bytesOf a.toList < bytesOf b.toList :=
  bytesOf_lt (String.lt_iff.1 h)

end PgVitals.Text.Utf8

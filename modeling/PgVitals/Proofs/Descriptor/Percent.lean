import PgVitals.Descriptor.Percent
import PgVitals.Proofs.Text.Utf8
import PgVitals.Text.Blank

/-!
# Percent encoding loses nothing

What encoding writes for a byte is decoded as that byte, whatever follows: a byte that stands for
itself is no percent sign, and two hexadecimal digits are no number behind a plus sign.  With the
round trip through the bytes of a text, every text is decoded from its encoded form.  The encoded
form is made of ASCII characters, none of which ends a path or is a blank.
-/

namespace PgVitals.Percent

open Text

/-! ## One byte -/

/-- What encoding writes stays within the path. -/
theorem encodeByte_safe : ∀ b < 256, ∀ c ∈ encodeByte b,
    c.toNat < 0x80 ∧ c ≠ '?' ∧ c ≠ '/' ∧ isBlank c = false := by
  -- Only the characters written are checked, not all that there are.
  have hall : ∀ b < 256, (encodeByte b).all (fun c =>
      c.toNat < 0x80 ∧ c ≠ '?' ∧ c ≠ '/' ∧ isBlank c = false) = true := by
    decide +kernel
  intro b hb c hc
  exact of_decide_eq_true (List.all_eq_true.1 (hall b hb) c hc)

theorem triplet?_hexDigits : ∀ b < 256,
    triplet? (hexDigit (b / 16)).toNat (hexDigit (b % 16)).toNat = some b := by
  decide +kernel

theorem toNat_ofNat_of_isKept : ∀ b < 256, isKept b = true → (Char.ofNat b).toNat = b := by
  decide +kernel

theorem isKept_sign : isKept sign = false := by
  decide +kernel

/-- A byte that starts no triplet is copied, whatever counts as one. -/
theorem decodeBytesBy_copy {triplet? : Nat → Nat → Option Nat} {b : Nat} {rest : List Nat}
    (h : ∀ high low tail, b :: rest = sign :: high :: low :: tail → triplet? high low = none) :
    decodeBytesBy triplet? (b :: rest) = b :: decodeBytesBy triplet? rest := by
  match rest with
  | [] => rfl
  | [_] => rfl
  | high :: low :: tail =>
    rw [decodeBytesBy]
    split
    · rename_i hsign
      rw [h high low tail (by rw [hsign])]
    · rfl

theorem decodeBytes_cons_of_ne {b : Nat} (h : b ≠ sign) (rest : List Nat) :
    decodeBytes (b :: rest) = b :: decodeBytes rest :=
  decodeBytesBy_copy fun _ _ _ hbytes => absurd (List.cons.inj hbytes).1 h

theorem decodeBytes_triplet {high low b : Nat} (h : triplet? high low = some b)
    (rest : List Nat) : decodeBytes (sign :: high :: low :: rest) = b :: decodeBytes rest := by
  rw [decodeBytes, decodeBytesBy, if_pos rfl, h]
  rfl

/-- What encoding writes for a byte is decoded as that byte. -/
theorem decodeBytes_encodeByte {b : Nat} (hb : b < 256) (rest : List Nat) :
    decodeBytes ((encodeByte b).map Char.toNat ++ rest) = b :: decodeBytes rest := by
  unfold encodeByte
  split
  · rename_i hkept
    have hne : b ≠ sign := by
      rintro rfl
      rw [isKept_sign] at hkept
      cases hkept
    rw [List.map_singleton, toNat_ofNat_of_isKept b hb hkept, List.singleton_append]
    exact decodeBytes_cons_of_ne hne rest
  · exact decodeBytes_triplet (triplet?_hexDigits b hb) rest

/-! ## Texts -/

theorem decodeBytes_encoded {bytes : List Nat} (h : ∀ b ∈ bytes, b < 256) :
    decodeBytes ((bytes.flatMap encodeByte).map Char.toNat) = bytes := by
  induction bytes with
  | nil => rfl
  | cons b bytes ih =>
    have hrest : ∀ b' ∈ bytes, b' < 256 := fun b' hb' => h b' (List.mem_cons_of_mem _ hb')
    rw [List.flatMap_cons, List.map_append, decodeBytes_encodeByte (h b List.mem_cons_self),
      ih hrest]

theorem encode_safe {s : String} {c : Char} (h : c ∈ (encode s).toList) :
    c.toNat < 0x80 ∧ c ≠ '?' ∧ c ≠ '/' ∧ isBlank c = false := by
  rw [encode, String.toList_ofList] at h
  obtain ⟨b, hb, hc⟩ := List.mem_flatMap.1 h
  exact encodeByte_safe b (Utf8.lt_of_mem_bytesOf hb) c hc

/-- **Decoding undoes encoding.** -/
theorem decode_encode (s : String) : decode (encode s) = s := by
  have hascii : Utf8.bytesOf (encode s).toList = (encode s).toList.map Char.toNat :=
    Utf8.bytesOf_of_ascii fun c hc => (encode_safe hc).1
  have hbytes : decodeBytes (Utf8.bytesOf (encode s).toList) = Utf8.bytesOf s.toList := by
    rw [hascii, encode, String.toList_ofList]
    exact decodeBytes_encoded fun b hb => Utf8.lt_of_mem_bytesOf hb
  rw [decode, hbytes, Utf8.decode_bytesOf, String.ofList_toList]

/-- Different texts have different encodings. -/
theorem encode_injective : Function.Injective encode :=
  Function.LeftInverse.injective decode_encode

theorem encode_ne_empty {s : String} (h : s ≠ "") : encode s ≠ "" := by
  intro hempty
  have hdecoded : decode "" = s := hempty ▸ decode_encode s
  exact h (hdecoded.symm.trans (by decide +kernel))

end PgVitals.Percent

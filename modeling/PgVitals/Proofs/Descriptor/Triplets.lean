import PgVitals.Proofs.Descriptor.Uri

/-!
# Triplets behind a plus sign

The bytes of a path are to be scanned from left to right: a percent sign and two hexadecimal digits
are replaced by the byte they write, every other byte is copied.  Decoding does that, but also takes
a percent sign, a plus sign and one digit for a number, which the scan copies.  The main statement
is that the database of a URI is what the scan finds exactly when the path has no such number: the
texts part at the first of them, where one has a control character and the other the percent sign.
-/

namespace PgVitals.Percent

open Text

/-! ## The scan -/

/-- The bytes start with a percent sign and two hexadecimal digits. -/
def StartsTriplet (bytes : List Nat) : Prop :=
  ∃ high low rest, bytes = sign :: high :: low :: rest ∧ (hexValue? high).isSome ∧
    (hexValue? low).isSome

/-- The scan from left to right that replaces triplets and copies every other byte. -/
inductive Scans : List Nat → List Nat → Prop
  | done : Scans [] []
  | triplet {high low h l : Nat} {rest out : List Nat} : hexValue? high = some h →
      hexValue? low = some l → Scans rest out →
      Scans (sign :: high :: low :: rest) ((16 * h + l) :: out)
  | copy {b : Nat} {rest out : List Nat} : ¬StartsTriplet (b :: rest) → Scans rest out →
      Scans (b :: rest) (b :: out)

theorem digitPair?_of_digits {high low h l : Nat} (hhigh : hexValue? high = some h)
    (hlow : hexValue? low = some l) : digitPair? high low = some (16 * h + l) := by
  rw [digitPair?, hhigh, hlow]

theorem digitPair?_eq_none {high low : Nat}
    (h : ¬((hexValue? high).isSome ∧ (hexValue? low).isSome)) : digitPair? high low = none := by
  unfold digitPair?
  split
  · rename_i hhigh hlow
    simp [hhigh, hlow] at h
  · rfl

/-- The scan finds what decoding by two digits finds, and nothing else. -/
theorem scans_iff {bytes out : List Nat} :
    Scans bytes out ↔ out = decodeBytesBy digitPair? bytes := by
  constructor
  · intro h
    induction h with
    | done => rfl
    | triplet hhigh hlow _ ih =>
      rw [decodeBytesBy, if_pos rfl, digitPair?_of_digits hhigh hlow, ih]
    | copy hstart _ ih =>
      rw [decodeBytesBy_copy fun high low tail hbytes =>
        digitPair?_eq_none fun hdigits => hstart ⟨high, low, tail, hbytes, hdigits⟩, ih]
  · rintro rfl
    -- On the length and not on the list: a triplet takes three bytes at once.
    induction hlength : bytes.length using Nat.strongRecOn generalizing bytes with
    | ind n ih =>
      by_cases hstart : StartsTriplet bytes
      · obtain ⟨high, low, rest, rfl, hhigh, hlow⟩ := hstart
        obtain ⟨h, hh⟩ := Option.isSome_iff_exists.1 hhigh
        obtain ⟨l, hl⟩ := Option.isSome_iff_exists.1 hlow
        rw [decodeBytesBy, if_pos rfl, digitPair?_of_digits hh hl]
        refine .triplet hh hl (ih rest.length ?_ rfl)
        simp only [List.length_cons] at hlength
        omega
      · cases bytes with
        | nil => exact .done
        | cons b rest =>
          rw [decodeBytesBy_copy fun high low tail hbytes =>
            digitPair?_eq_none fun hdigits => hstart ⟨high, low, tail, hbytes, hdigits⟩]
          refine .copy hstart (ih rest.length ?_ rfl)
          simp only [List.length_cons] at hlength
          omega

instance (bytes out : List Nat) : Decidable (Scans bytes out) :=
  decidable_of_iff _ scans_iff.symm

/-! ## One digit behind a plus sign -/

/-- The byte of the plus sign. -/
def plus : Nat := 0x2B

/-- The bytes start with a percent sign, a plus sign and a hexadecimal digit. -/
def StartsSigned (bytes : List Nat) : Prop :=
  ∃ low, (hexValue? low).isSome ∧ [sign, plus, low] <+: bytes

/-- Somewhere in the bytes stands a percent sign with a plus sign and a hexadecimal digit behind
it. -/
def Signed (bytes : List Nat) : Prop := ∃ low, (hexValue? low).isSome ∧ [sign, plus, low] <:+: bytes

theorem signed_cons_iff {b : Nat} {rest : List Nat} :
    Signed (b :: rest) ↔ StartsSigned (b :: rest) ∨ Signed rest := by
  simp only [Signed, StartsSigned, List.infix_cons_iff, and_or_left, exists_or]

/-- A percent sign is no digit, so none is passed over with a triplet. -/
theorem signed_digit_cons_iff {b : Nat} (h : (hexValue? b).isSome) {rest : List Nat} :
    Signed (b :: rest) ↔ Signed rest := by
  rw [signed_cons_iff, or_iff_right]
  rintro ⟨low, -, hstart⟩
  obtain ⟨rfl, -⟩ := List.cons_prefix_cons.1 hstart
  simp [hexValue?, sign] at h

theorem triplet?_of_digits {high low h l : Nat} (hhigh : hexValue? high = some h)
    (hlow : hexValue? low = some l) : triplet? high low = some (16 * h + l) := by
  rw [triplet?, if_neg, digitPair?_of_digits hhigh hlow]
  rintro rfl
  simp [hexValue?] at hhigh

theorem triplet?_plus (low : Nat) : triplet? plus low = hexValue? low := if_pos rfl

theorem hexValue?_lt {b l : Nat} (h : hexValue? b = some l) : l < 16 := by
  unfold hexValue? at h
  split_ifs at h <;> simp_all <;> omega

/-- The bytes are the same up to a place where the first have a control character and the others a
percent sign. -/
def PartsAtSign (read scanned : List Nat) : Prop :=
  ∃ front l back back', l < 16 ∧ read = front ++ l :: back ∧ scanned = front ++ sign :: back'

theorem PartsAtSign.cons {read scanned : List Nat} (h : PartsAtSign read scanned) (b : Nat) :
    PartsAtSign (b :: read) (b :: scanned) := by
  obtain ⟨front, l, back, back', hl, rfl, rfl⟩ := h
  exact ⟨b :: front, l, back, back', hl, rfl, rfl⟩

theorem not_startsSigned_of_digit {b high : Nat} (h : (hexValue? high).isSome) {rest : List Nat} :
    ¬StartsSigned (b :: high :: rest) := by
  rintro ⟨low, -, hstart⟩
  obtain ⟨-, hstart⟩ := List.cons_prefix_cons.1 hstart
  obtain ⟨rfl, -⟩ := List.cons_prefix_cons.1 hstart
  simp [hexValue?, plus] at h

theorem triplet?_eq_none {high low : Nat} {tail : List Nat}
    (hdigits : ¬StartsTriplet (sign :: high :: low :: tail))
    (hsigned : ¬StartsSigned (sign :: high :: low :: tail)) : triplet? high low = none := by
  rw [triplet?]
  split
  · rename_i hplus
    rw [← Option.not_isSome_iff_eq_none]
    intro hlow
    exact hsigned ⟨low, hlow, tail, by rw [hplus]; rfl⟩
  · exact digitPair?_eq_none fun hboth => hdigits ⟨high, low, tail, rfl, hboth⟩

/-- **Decoding is the scan unless a digit stands behind a plus sign,** and parts from it at the
first place where one does. -/
theorem Scans.compare {bytes out : List Nat} (h : Scans bytes out) :
    (¬Signed bytes ∧ decodeBytes bytes = out) ∨
      (Signed bytes ∧ PartsAtSign (decodeBytes bytes) out) := by
  induction h with
  | done => exact Or.inl ⟨by simp [Signed], rfl⟩
  | @triplet high low h l rest out hhigh hlow _ ih =>
    have hdigit := Option.isSome_of_eq_some hhigh
    have hsigned : Signed (sign :: high :: low :: rest) ↔ Signed rest := by
      rw [signed_cons_iff, or_iff_right (not_startsSigned_of_digit hdigit),
        signed_digit_cons_iff hdigit, signed_digit_cons_iff (Option.isSome_of_eq_some hlow)]
    rw [decodeBytes_triplet (triplet?_of_digits hhigh hlow), hsigned]
    exact ih.imp (fun ⟨hfree, heq⟩ => ⟨hfree, by rw [heq]⟩)
      fun ⟨hin, hparts⟩ => ⟨hin, hparts.cons _⟩
  | @copy b rest out hstart _ ih =>
    by_cases hsigned : StartsSigned (b :: rest)
    · -- The scan copies the percent sign, decoding takes it with the two bytes behind it.
      refine Or.inr ⟨signed_cons_iff.2 (Or.inl hsigned), ?_⟩
      obtain ⟨low, hlow, tail, htail⟩ := hsigned
      obtain ⟨l, hl⟩ := Option.isSome_iff_exists.1 hlow
      obtain ⟨rfl, rfl⟩ : sign = b ∧ plus :: low :: tail = rest := by simpa using htail
      rw [← triplet?_plus] at hl
      exact ⟨[], l, decodeBytes tail, out, hexValue?_lt (triplet?_plus low ▸ hl),
        decodeBytes_triplet hl tail, rfl⟩
    · have hcopy : decodeBytes (b :: rest) = b :: decodeBytes rest := by
        refine decodeBytesBy_copy fun high low tail hbytes => ?_
        rw [hbytes] at hstart hsigned
        exact triplet?_eq_none hstart hsigned
      rw [hcopy, signed_cons_iff, or_iff_right hsigned]
      exact ih.imp (fun ⟨hfree, heq⟩ => ⟨hfree, by rw [heq]⟩)
        fun ⟨hin, hparts⟩ => ⟨hin, hparts.cons _⟩

/-! ## Texts -/

/-- Where the bytes part the texts part: both bytes are ASCII and stand for different characters. -/
theorem PartsAtSign.decode_ne {read scanned : List Nat} (h : PartsAtSign read scanned) :
    Utf8.decode read ≠ Utf8.decode scanned := by
  obtain ⟨front, l, back, back', hl, rfl, rfl⟩ := h
  rw [Utf8.decode_append_ascii (by omega), Utf8.decode_append_ascii (by decide)]
  intro heq
  have hchar : Char.ofNat l = Char.ofNat sign := (List.cons.inj (List.append_cancel_left heq)).1
  have hall : ∀ l < 16, Char.ofNat l ≠ Char.ofNat sign := by decide
  exact hall l hl hchar

/-- What decoding gives is the text of the scanned bytes exactly when no digit stands behind a plus
sign. -/
theorem decode_eq_iff {s : String} {out : List Nat} (h : Scans (Utf8.bytesOf s.toList) out) :
    decode s = String.ofList (Utf8.decode out) ↔ ¬Signed (Utf8.bytesOf s.toList) := by
  rw [decode, String.ofList_inj]
  obtain ⟨hfree, heq⟩ | ⟨hsigned, hparts⟩ := h.compare
  · rw [heq]
    exact iff_of_true rfl hfree
  · exact iff_of_false hparts.decode_ne (not_not_intro hsigned)

theorem signed_iff {bytes : List Nat} :
    Signed bytes ↔ decodeBytes bytes ≠ decodeBytesBy digitPair? bytes := by
  obtain ⟨hfree, heq⟩ | ⟨hsigned, hparts⟩ := (scans_iff.2 rfl : Scans bytes _).compare
  · exact iff_of_false hfree (not_not_intro heq)
  · exact iff_of_true hsigned fun heq => hparts.decode_ne (by rw [heq])

instance (bytes : List Nat) : Decidable (Signed bytes) := decidable_of_iff _ signed_iff.symm

end PgVitals.Percent

namespace PgVitals.Uri

open Text Percent

/-- **The database of a URI with a path is the text of the scanned bytes of the path** exactly when
no percent sign with a plus sign and a hexadecimal digit behind it stands in the path.  The scan
finds one sequence of bytes for every path. -/
theorem database?_eq_scanned_iff {u : Uri} (h : u.path ≠ "") :
    (∃! out, Scans (Utf8.bytesOf u.path.toList) out) ∧
      ∀ out, Scans (Utf8.bytesOf u.path.toList) out →
        (u.database? = some (String.ofList (Utf8.decode out)) ↔
          ¬Signed (Utf8.bytesOf u.path.toList)) := by
  refine ⟨⟨_, scans_iff.2 rfl, fun out hout => scans_iff.1 hout⟩, fun out hout => ?_⟩
  rw [database?, if_neg (by simpa using h), Option.some.injEq]
  exact decode_eq_iff hout

/-- A path with triplets in both cases of letters, a broken one, a plus sign that stands for itself
and a byte that forms no character. -/
theorem database?_eq_scanned_iff_broken :
    (⟨.postgres, "h", "my%20db%2f+%zz%ff%4", none⟩ : Uri).database? =
      some "my db/+%zz\uFFFD%4" := by
  have hscans : Scans (Utf8.bytesOf "my%20db%2f+%zz%ff%4".toList)
      (Utf8.bytesOf "my db/+%zz".toList ++ 0xFF :: Utf8.bytesOf "%4".toList) := by decide +kernel
  have hdatabase := ((database?_eq_scanned_iff (u := ⟨.postgres, "h", "my%20db%2f+%zz%ff%4", none⟩)
    (by decide)).2 _ hscans).2 (by decide +kernel)
  rw [hdatabase]
  decide +kernel

/-- One digit behind a plus sign: the scan copies all of the path, and the database that is read is
a single control character. -/
theorem database?_signed :
    ∃ u : Uri, Descriptor.read "postgres://h/%+5" = .ok (.uri u) ∧ u.path = "%+5" ∧
      Scans (Utf8.bytesOf u.path.toList) (Utf8.bytesOf "%+5".toList) ∧
      u.database? = some (String.ofList [Char.ofNat 5]) ∧
      u.database? ≠ some (String.ofList (Utf8.decode (Utf8.bytesOf "%+5".toList))) := by
  refine ⟨⟨.postgres, "h", "%+5", none⟩, ?_⟩
  decide +kernel

end PgVitals.Uri

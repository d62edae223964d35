import PgVitals.Decimal.Reader

/-!
# Reading is exact

The reader keeps the number read so far and stops at the first digit that takes it past the limit.
The number never falls while digits are added, so a run that stops early is one whose value lies
above the limit: reading succeeds on the runs of ASCII digits whose value is within the limit, with
that value, and on no other run.
-/

namespace PgVitals.Decimal

/-! ## Digits -/

theorem digit?_of_isDigit {c : Char} (h : c.isDigit = true) :
    digit? c = some (c.toNat - '0'.toNat) := by
  have hrange : '0' ≤ c ∧ c ≤ '9' := by simpa [Char.isDigit, Char.le_def] using h
  simp [digit?, hrange]

theorem digit?_of_not_isDigit {c : Char} (h : c.isDigit = false) : digit? c = none := by
  have hrange : ¬('0' ≤ c ∧ c ≤ '9') := by simpa [Char.isDigit, Char.le_def] using h
  simp [digit?, hrange]

/-- Adding digits to a number does not make it less. -/
theorem le_ofDigitChars (run : List Char) (acc : Nat) : acc ≤ Nat.ofDigitChars 10 run acc := by
  induction run generalizing acc with
  | nil => simp
  | cons c run ih =>
    rw [Nat.ofDigitChars_cons]
    have hrest := ih (10 * acc + (c.toNat - '0'.toNat))
    omega

/-! ## Runs -/

theorem readDigits_eq_ok_iff {limit acc n : Nat} {beyond : IntegerFault} {run : List Char}
    (hacc : acc ≤ limit) :
    readDigits limit beyond acc run = .ok n ↔
      (∀ c ∈ run, c.isDigit = true) ∧ Nat.ofDigitChars 10 run acc = n ∧ n ≤ limit := by
  -- The number read so far goes along: the limit is looked at after every digit, not at the end.
  induction run generalizing acc with
  | nil =>
    simp only [readDigits, Except.ok.injEq, Nat.ofDigitChars_nil, List.not_mem_nil]
    constructor
    · rintro rfl
      exact ⟨by simp, rfl, hacc⟩
    · rintro ⟨-, h, -⟩
      exact h
  | cons c run ih =>
    by_cases hdigit : c.isDigit = true
    · rw [readDigits, digit?_of_isDigit hdigit, Nat.ofDigitChars_cons, List.forall_mem_cons]
      by_cases hlimit : limit < 10 * acc + (c.toNat - '0'.toNat)
      · have hrest := le_ofDigitChars run (10 * acc + (c.toNat - '0'.toNat))
        simp only [if_pos hlimit]
        constructor
        · intro h
          simp at h
        · rintro ⟨-, rfl, hle⟩
          omega
      · simp only [if_neg hlimit, hdigit, true_and]
        exact ih (by omega)
    · have hnone := digit?_of_not_isDigit (by simpa using hdigit)
      simp [readDigits, hnone, hdigit]

/-- **A run that does not start with a plus sign is read exactly:** as the value of its ASCII
digits, if that is within the limit. -/
theorem readNatural_eq_ok_iff {limit n : Nat} {run : List Char} (hne : run ≠ [])
    (hplus : run.head? ≠ some '+') :
    readNatural limit run = .ok n ↔
      (∀ c ∈ run, c.isDigit = true) ∧ Nat.ofDigitChars 10 run 0 = n ∧ n ≤ limit := by
  have hread : readNatural limit run = readDigits limit .tooLarge 0 run := by
    unfold readNatural
    split <;> simp_all
  rw [hread]
  exact readDigits_eq_ok_iff (Nat.zero_le limit)

/-- A number of at most the greatest has 64 bits. -/
theorem le_maxUnsigned64_iff {n : Nat} : n ≤ maxUnsigned64 ↔ n < UInt64.size := by
  rw [maxUnsigned64, UInt64.size]
  omega

/-- Every number of 64 bits is read as it is written. -/
theorem readUnsigned64_toString {n : Nat} (h : n < UInt64.size) :
    readUnsigned64 (toString n).toList = .ok n := by
  have hchars : (toString n).toList = Nat.toDigits 10 n := by simp
  have hdigits : ∀ c ∈ Nat.toDigits 10 n, c.isDigit = true := fun c hc =>
    Nat.isDigit_of_mem_toDigits (by decide) (by decide) hc
  have hplus : (Nat.toDigits 10 n).head? ≠ some '+' := fun hhead =>
    absurd (hdigits '+' (List.mem_of_mem_head? hhead)) (by decide)
  rw [hchars, readUnsigned64, readNatural_eq_ok_iff Nat.toDigits_ne_nil hplus]
  exact ⟨hdigits, Nat.ofDigitChars_toDigits (by decide) (by decide), le_maxUnsigned64_iff.2 h⟩

end PgVitals.Decimal

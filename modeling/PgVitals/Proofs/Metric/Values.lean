import Mathlib.Tactic.SplitIfs
import PgVitals.Metric.Exposition

/-!
# The texts of values

The text of a value is a word for it or a decimal without an exponent, and holds nothing but
letters, digits, a sign and a point.
-/

namespace PgVitals

namespace Decimal

theorem isDigit_of_mem_decimalDigits {n : Nat} {c : Char} (h : c ∈ decimalDigits n) :
    c.isDigit = true :=
  Nat.isDigit_of_mem_toDigits (by decide) (by decide) h

/-- Zeros behind the digits, the point inside them, or the point and zeros before them. -/
theorem positional_cases (d : Digits) :
    (∃ n, d.positional false = decimalDigits d.digits ++ List.replicate n '0') ∨
      (∃ n, d.positional false =
        (decimalDigits d.digits).take n ++ '.' :: (decimalDigits d.digits).drop n) ∨
      ∃ n, d.positional false = '0' :: '.' :: (List.replicate n '0' ++ decimalDigits d.digits) := by
  simp only [Digits.positional]
  by_cases hwhole : 0 ≤ d.exponent
  · rw [if_pos hwhole]
    exact .inl ⟨_, List.append_nil _⟩
  · rw [if_neg hwhole]
    by_cases hinside : (-d.exponent).toNat < (decimalDigits d.digits).length
    · rw [if_pos hinside]
      exact .inr (.inl ⟨_, rfl⟩)
    · rw [if_neg hinside]
      exact .inr (.inr ⟨_, rfl⟩)

theorem mem_positional {d : Digits} {c : Char} (h : c ∈ d.positional false) :
    c.isDigit = true ∨ c = '.' := by
  have hzeros : ∀ n, c ∈ List.replicate n '0' → c.isDigit = true := by
    intro n hc
    rw [List.eq_of_mem_replicate hc]
    rfl
  obtain ⟨n, hd⟩ | ⟨n, hd⟩ | ⟨n, hd⟩ := positional_cases d <;> rw [hd] at h
  · obtain hc | hc := List.mem_append.1 h
    · exact .inl (isDigit_of_mem_decimalDigits hc)
    · exact .inl (hzeros n hc)
  · obtain hc | hc := List.mem_append.1 h
    · exact .inl (isDigit_of_mem_decimalDigits (List.mem_of_mem_take hc))
    · obtain hc | hc := List.mem_cons.1 hc
      · exact .inr hc
      · exact .inl (isDigit_of_mem_decimalDigits (List.mem_of_mem_drop hc))
  · obtain rfl | hc := List.mem_cons.1 h
    · exact .inl rfl
    · obtain hc | hc := List.mem_cons.1 hc
      · exact .inr hc
      · obtain hc | hc := List.mem_append.1 hc
        · exact .inl (hzeros n hc)
        · exact .inl (isDigit_of_mem_decimalDigits hc)

theorem positional_ne_nil (d : Digits) : d.positional false ≠ [] := by
  have hdigits : decimalDigits d.digits ≠ [] := Nat.toDigits_ne_nil
  obtain ⟨n, hd⟩ | ⟨n, hd⟩ | ⟨n, hd⟩ := positional_cases d <;> rw [hd]
  · exact List.append_ne_nil_of_left_ne_nil hdigits _
  · exact List.append_ne_nil_of_right_ne_nil _ (List.cons_ne_nil _ _)
  · exact List.cons_ne_nil _ _

end Decimal

namespace Exposition

/-- A character that stands in the text of a value. -/
def isValueChar (c : Char) : Bool := c.isAlphanum || c = '+' || c = '-' || c = '.'

/-- Whether this can be the text of a value: not empty, without blanks and line feeds. -/
def isValueText (cs : List Char) : Bool := !cs.isEmpty && cs.all isValueChar

theorem isValueText_write (x : Float) : isValueText (valueLayout.write x).toList = true := by
  rw [Decimal.Layout.write, String.toList_ofList]
  generalize (Decimal.Dyadic.ofBits x.toBits.toNat).shortest valueLayout.tie = d
  have hpositional : valueLayout.writeDigits d = d.positional false := rfl
  have hplain : ∀ c ∈ d.positional false, isValueChar c = true := by
    intro c hc
    obtain hdigit | rfl := Decimal.mem_positional hc
    · simp [isValueChar, Char.isAlphanum, hdigit]
    · rfl
  have hempty : (d.positional false).isEmpty = false := by
    rw [List.isEmpty_eq_false_iff]
    exact Decimal.positional_ne_nil d
  have hvalue : isValueText (d.positional false) = true := by
    rw [isValueText, hempty, List.all_eq_true.2 hplain]
    rfl
  rw [hpositional]
  split_ifs with hsign
  · exact List.all_eq_true.2 (List.forall_mem_cons.2 ⟨rfl, hplain⟩)
  · exact hvalue

theorem isValueText_valueText (x : Float) : isValueText (valueText x).toList = true := by
  unfold valueText
  split_ifs with hnan hinf hpositive
  · rfl
  · rfl
  · rfl
  · exact isValueText_write x

end Exposition

end PgVitals

import Mathlib.Data.List.Basic
import PgVitals.Text.Cut
import PgVitals.Text.Quoted

/-!
# Quoted forms are unambiguous

The quoted forms of two characters are never one the beginning of the other, so a message that shows
a text in its quoted form tells the text: different texts are shown differently.
-/

namespace PgVitals.Text

/-! ## Code points -/

theorem hexDigits_eq (n : Nat) :
    hexDigits n = (if n < 16 then [] else hexDigits (n / 16)) ++ [Nat.digitChar (n % 16)] := by
  unfold hexDigits
  split
  · rename_i h
    rw [Nat.toDigits_of_lt_base h, Nat.mod_eq_of_lt h, List.nil_append]
  · rename_i h
    exact Nat.toDigits_of_base_le (by omega) (by omega)

theorem digitChar_injOn {m n : Nat} (hm : m < 16) (hn : n < 16)
    (h : Nat.digitChar m = Nat.digitChar n) : m = n := by
  have hall : ∀ m < 16, ∀ n < 16, Nat.digitChar m = Nat.digitChar n → m = n := by decide
  exact hall m hm n hn h

theorem hexDigits_injective : Function.Injective hexDigits := by
  intro m
  induction m using Nat.strongRecOn with
  | ind m ih =>
    intro n h
    rw [hexDigits_eq m, hexDigits_eq n] at h
    obtain ⟨hfront, hlast⟩ := List.append_inj' h rfl
    -- The last digit is the remainder, the digits before it are those of the quotient.
    have hmod : m % 16 = n % 16 :=
      digitChar_injOn (Nat.mod_lt _ (by decide)) (Nat.mod_lt _ (by decide)) (List.cons.inj hlast).1
    have hne : ∀ k, hexDigits k ≠ [] := fun k => Nat.toDigits_ne_nil
    by_cases hm : m < 16 <;> by_cases hn : n < 16
    · omega
    · rw [if_pos hm, if_neg hn] at hfront
      exact absurd hfront.symm (hne _)
    · rw [if_neg hm, if_pos hn] at hfront
      exact absurd hfront (hne _)
    · rw [if_neg hm, if_neg hn] at hfront
      have hdiv : m / 16 = n / 16 := ih (m / 16) (by omega) hfront
      omega

/-- The brace that closes a code point is none of its digits. -/
theorem brace_notMem_hexDigits (n : Nat) : '\x7d' ∉ hexDigits n := by
  have hdigit : ∀ k < 16, '\x7d' ≠ Nat.digitChar k := by decide
  induction n using Nat.strongRecOn with
  | ind n ih =>
    rw [hexDigits_eq, List.mem_append, not_or]
    refine ⟨?_, ?_⟩
    · split
      · exact List.not_mem_nil
      · exact ih (n / 16) (by omega)
    · rw [List.mem_singleton]
      exact hdigit _ (Nat.mod_lt _ (by decide))

/-! ## Characters -/

/-- The characters whose quoted form is a backslash and one character, with that character. -/
def shortForms : List (Char × Char) :=
  [('"', '"'), ('\\', '\\'), ('\t', 't'), ('\r', 'r'), ('\n', 'n'), ('\x00', '0')]

/-- The second text is a quoted form of the character. -/
inductive IsQuotedForm : Char → List Char → Prop where
  /-- A character that stands for itself. -/
  | plain {c : Char} (h : c ≠ '\\') : IsQuotedForm c [c]
  /-- A character with a short form. -/
  | short {c d : Char} (h : (c, d) ∈ shortForms) : IsQuotedForm c ['\\', d]
  /-- A code point between braces. -/
  | code (c : Char) : IsQuotedForm c ('\\' :: 'u' :: '\x7b' :: (hexDigits c.toNat ++ ['\x7d']))

theorem isQuotedForm_quotedChar (c : Char) : IsQuotedForm c (quotedChar c) := by
  unfold quotedChar
  split_ifs with hquote hbackslash htab hreturn hfeed hnull hhidden
  · exact .short (by rw [hquote]; decide)
  · exact .short (by rw [hbackslash]; decide)
  · exact .short (by rw [htab]; decide)
  · exact .short (by rw [hreturn]; decide)
  · exact .short (by rw [hfeed]; decide)
  · exact .short (by rw [hnull]; decide)
  · exact .code c
  · exact .plain hbackslash

theorem isQuotedForm_inj {c d : Char} {form form' rest rest' : List Char} (hc : IsQuotedForm c form)
    (hd : IsQuotedForm d form') (h : form ++ rest = form' ++ rest') : c = d ∧ rest = rest' := by
  have hshort : ∀ p ∈ shortForms, p.2 ≠ 'u' := by decide
  cases hc with
  | plain hc =>
    cases hd with
    | plain => exact List.cons.inj h
    | short => exact absurd (List.cons.inj h).1 hc
    | code => exact absurd (List.cons.inj h).1 hc
  | @short short hc =>
    cases hd with
    | plain hd => exact absurd (List.cons.inj h).1.symm hd
    | @short short' hd =>
      have hinj : ∀ p ∈ shortForms, ∀ q ∈ shortForms, p.2 = q.2 → p.1 = q.1 := by decide
      obtain ⟨hletter, hrest⟩ := List.cons.inj (List.cons.inj h).2
      exact ⟨hinj (c, short) hc (d, short') hd hletter, hrest⟩
    | code => exact absurd (List.cons.inj (List.cons.inj h).2).1 (hshort (c, short) hc)
  | code =>
    cases hd with
    | plain hd => exact absurd (List.cons.inj h).1.symm hd
    | @short short' hd =>
      exact absurd (List.cons.inj (List.cons.inj h).2).1.symm (hshort (d, short') hd)
    | code =>
      have hdigits :
          hexDigits c.toNat ++ '\x7d' :: rest = hexDigits d.toNat ++ '\x7d' :: rest' := by
        simpa using h
      have hcut : ∀ n rest, cutAt? '\x7d' (hexDigits n ++ '\x7d' :: rest) =
          some (hexDigits n, rest) :=
        fun n _ => cutAt?_eq_some_iff.2 ⟨rfl, brace_notMem_hexDigits n⟩
      have hsame := hcut c.toNat rest
      rw [hdigits, hcut, Option.some.injEq, Prod.mk.injEq] at hsame
      exact ⟨Char.toNat_inj.1 (hexDigits_injective hsame.1.symm), hsame.2.symm⟩

/-! ## Texts -/

theorem flatMap_quotedChar_injective :
    Function.Injective fun cs : List Char => cs.flatMap quotedChar := by
  have hne : ∀ c, quotedChar c ≠ [] := by
    intro c hnil
    have hform := isQuotedForm_quotedChar c
    rw [hnil] at hform
    cases hform
  intro cs
  induction cs with
  | nil =>
    intro ds h
    cases ds with
    | nil => rfl
    | cons d ds => simp [hne d] at h
  | cons c cs ih =>
    intro ds h
    cases ds with
    | nil => simp [hne c] at h
    | cons d ds =>
      -- No form begins another one, so the first form of the text tells the first character.
      obtain ⟨rfl, hrest⟩ := isQuotedForm_inj (isQuotedForm_quotedChar c)
        (isQuotedForm_quotedChar d) (by simpa using h)
      rw [ih hrest]

/-- **Different texts are shown differently.** -/
theorem quoted_injective : Function.Injective quoted := by
  intro s t h
  have hforms := (List.cons.inj (List.append_cancel_right (String.ofList_injective h))).2
  exact String.toList_inj.1 (flatMap_quotedChar_injective hforms)

end PgVitals.Text

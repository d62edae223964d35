import PgVitals.Proofs.Descriptor.Retarget
import PgVitals.Proofs.Descriptor.Uri

/-!
# What is printed for a descriptor is read as that descriptor

A descriptor that was read is in written form, whichever of its two forms it has, so `read_text` of
the form that it has reads its text as the same descriptor.  The text need not be the one that was
read: blanks around an equals sign are gone, one space stands between two pairs, and the slash
before the path of a URI is always there.  Blanks around the text that is read make no difference at
all.  And whatever database a descriptor is pointed at, its text tells which one it is.
-/

namespace PgVitals.Descriptor

open Text

/-- A descriptor that was read is read from its own text. -/
theorem read_text_of_read {s : String} {d : Descriptor} (h : read s = .ok d) :
    read d.text = .ok d := by
  cases d with
  | uri u =>
    have hwritten : u.IsWritten := Uri.isWritten_of_read h
    exact Uri.read_text hwritten
  | keyValue d =>
    obtain ⟨hwritten, p, rest, hpairs, hopens⟩ := pairs_of_read h
    obtain ⟨pairs⟩ := d
    obtain rfl : pairs = p :: rest := hpairs
    exact read_text hwritten hopens

/-- Reading takes the text without the blanks at its ends. -/
theorem read_congr_trim {s s' : String} (h : trim s.toList = trim s'.toList) :
    read s = read s' := by
  rw [read, read, h]

theorem read_append_append {before after : String} (hbefore : ∀ c ∈ before.toList, isBlank c = true)
    (hafter : ∀ c ∈ after.toList, isBlank c = true) (s : String) :
    read (before ++ s ++ after) = read s := by
  have htrim : trim (before ++ s ++ after).toList = trim s.toList := by
    rw [String.toList_append, String.toList_append, trim_append_append hbefore hafter]
  exact read_congr_trim htrim

/-- **Printing is stable.**  What is printed for a descriptor that was read is read as the same
descriptor, and blanks before or after a text change nothing in how it is read. -/
theorem read_stable (s : String) :
    (∀ d, read s = .ok d → read d.text = .ok d) ∧
      ∀ before after : String, (∀ c ∈ before.toList, isBlank c = true) →
        (∀ c ∈ after.toList, isBlank c = true) → read (before ++ s ++ after) = read s := by
  constructor
  · intro d h
    exact read_text_of_read h
  · intro before after hbefore hafter
    exact read_append_append hbefore hafter s

/-- Pairs with an escaped quote, without blanks between them, with a separator of schemes in a key
and with a value left empty at the end; and a URI with neither host nor path, whose parameters hold
a blank. -/
theorem read_stable_glued :
    (∃ d, read "host='a\\' b'k://=1 x =" = .ok d ∧ d.text = "host='a\\' b' k://=1 x=" ∧
      read d.text = .ok d ∧ read ("\t" ++ "host='a\\' b'k://=1 x =" ++ " \n") = .ok d) ∧
    ∃ d, read "postgres://?a b" = .ok d ∧ d.text = "postgres:///?a b" ∧ read d.text = .ok d := by
  constructor
  · have hread : read "host='a\\' b'k://=1 x =" = .ok (.keyValue
        ⟨[⟨"host", "'a\\' b'"⟩, ⟨"k://", "1"⟩, ⟨"x", ""⟩]⟩) := by decide +kernel
    have htab : ∀ c ∈ "\t".toList, isBlank c = true := List.all_eq_true.1 (by decide +kernel)
    have hend : ∀ c ∈ " \n".toList, isBlank c = true := List.all_eq_true.1 (by decide +kernel)
    obtain ⟨hstable, hpadded⟩ := read_stable "host='a\\' b'k://=1 x ="
    refine ⟨_, hread, by decide +kernel, hstable _ hread, ?_⟩
    rw [hpadded "\t" " \n" htab hend, hread]
  · have hread : read "postgres://?a b" = .ok (.uri ⟨.postgres, "", "", some "a b"⟩) := by
      decide +kernel
    exact ⟨_, hread, by decide +kernel, (read_stable _).1 _ hread⟩

/-- The text of a descriptor that was pointed at a database tells the database. -/
theorem text_retarget_injective (d : Descriptor) :
    Function.Injective fun database => (d.retarget database).text := by
  cases d with
  | uri u => exact u.text_retarget_injective
  | keyValue d => exact d.text_retarget_injective

end PgVitals.Descriptor

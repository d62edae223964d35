/-!
# Sets of characters given by ranges

A Unicode property is carried as a list of closed ranges of code points, ascending and apart. A
character belongs to the set when one range holds its code point.
-/

namespace PgVitals.Text

/-- A set of characters: closed ranges of code points, ascending and apart. -/
abbrev CharSet := List (Nat × Nat)

namespace CharSet

def has (ranges : CharSet) (c : Char) : Bool :=
  ranges.any fun range => range.1 ≤ c.toNat && c.toNat ≤ range.2

theorem has_iff {ranges : CharSet} {c : Char} :
    ranges.has c = true ↔ ∃ range ∈ ranges, range.1 ≤ c.toNat ∧ c.toNat ≤ range.2 := by
  simp [has]

end CharSet

end PgVitals.Text

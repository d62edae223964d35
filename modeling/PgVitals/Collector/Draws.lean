/-!
# Drawing from random words

A random source is a sequence of 32-bit words read one after the other, from the start again after
the last. An index below a bound is drawn by taking the upper half of the product of a word and the
bound; words whose lower half lies beyond a zone are refused, so that every index is equally likely.
A shuffle swaps each place, from the last down, with a place drawn from those up to it.

A source of which every word is refused has no shuffle: the drawing never ends. `below` is total
and returns there all the same; what is proved of every source speaks of a run only if there is one.
-/

namespace PgVitals

/-- A random source and the place in it. -/
structure Draws where
  /-- The words, replayed in a cycle; none stands for zeros. -/
  words : Array UInt32
  /-- How many words have been read. -/
  position : Nat
deriving DecidableEq, Repr

namespace Draws

/-- The source that starts with the first of the words. -/
def ofWords (words : Array UInt32) : Draws := ⟨words, 0⟩

/-- The next word, and the source after it. -/
def next (d : Draws) : Nat × Draws :=
  ((d.words.getD (d.position % d.words.size) 0).toNat, { d with position := d.position + 1 })

/-- The greatest lower half that is not refused for a bound: the bound shifted left until it has 32
binary digits, less one. -/
def zone (bound : Nat) : Nat := bound <<< (31 - bound.log2) - 1

/-- The index that a word gives below a bound, unless the word is refused. -/
def indexOf? (bound word : Nat) : Option Nat :=
  if word * bound % UInt32.size ≤ zone bound then some (word * bound / UInt32.size) else none

/-- Draws an index below a bound within so many words. When all of them are refused the index is
`0`, which no word gave: a caller that allows as many words as the source replays, and one more,
gets it only where drawing from that source would go on for ever. -/
def below (bound : Nat) : Nat → Draws → Nat × Draws
  | 0, d => (0, d)
  | tries + 1, d =>
    match indexOf? bound d.next.1 with
    | some index => (index, d.next.2)
    | none => below bound tries d.next.2

/-- Swaps the places from `i` down to the second, each with a place drawn from those up to it. -/
def shuffleFrom {α : Type} : Nat → Array α → Draws → Array α × Draws
  | 0, xs, d => (xs, d)
  | i + 1, xs, d =>
    -- One word more than there are: then each has been tried, from whichever place.
    let (j, d) := below (i + 2) (d.words.size + 1) d
    shuffleFrom i (xs.swapIfInBounds (i + 1) j) d

/-- The items in a random order. -/
def shuffle {α : Type} (xs : List α) (d : Draws) : List α × Draws :=
  let (shuffled, d) := shuffleFrom (xs.length - 1) xs.toArray d
  (shuffled.toList, d)

end Draws

end PgVitals

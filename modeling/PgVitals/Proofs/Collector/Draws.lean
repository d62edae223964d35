import Mathlib.Data.List.Basic
import Mathlib.Data.Nat.Find
import PgVitals.Proofs.Collector.Selection

/-!
# Every order can be drawn

For every index below a bound of 32 bits there is a word that gives it at the first try: the least
word whose product with the bound reaches the index.  Its lower half is smaller than the bound, and
no such word is refused.  A shuffle fixes the places from the last down, and each place can take any
item among those not fixed yet.  So for every order of the items there are words that lead to it.

A draw reads words until one is accepted.  The source replays its words, so `below`, which is given
one replay, is that draw for every source with a word that is accepted; the others have none.
-/

namespace PgVitals.Draws

variable {α : Type}

/-! ## One index -/

/-- The least word whose product with the bound reaches the index. -/
def wordOf (bound index : Nat) : Nat := (index * UInt32.size + (bound - 1)) / bound

/-- The product overshoots the index by less than the bound. -/
theorem wordOf_mul {bound : Nat} (hpos : 0 < bound) (index : Nat) :
    ∃ excess < bound, wordOf bound index * bound = index * UInt32.size + excess := by
  have hdiv := Nat.div_add_mod (index * UInt32.size + (bound - 1)) bound
  have hmod := Nat.mod_lt (index * UInt32.size + (bound - 1)) hpos
  rw [Nat.mul_comm, ← wordOf] at hdiv
  exact ⟨bound - 1 - (index * UInt32.size + (bound - 1)) % bound, by omega, by omega⟩

/-- Shifting a bound left makes it no smaller. -/
theorem lt_zone {bound excess : Nat} (h : excess < bound) : excess ≤ zone bound := by
  have hshift : bound ≤ bound <<< (31 - bound.log2) := by
    rw [Nat.shiftLeft_eq]
    exact Nat.le_mul_of_pos_right bound (Nat.two_pow_pos _)
  rw [zone]
  omega

/-- **Every index below a bound has a word that gives it.** -/
theorem indexOf?_wordOf {bound index : Nat} (hbound : bound < UInt32.size) (h : index < bound) :
    indexOf? bound (wordOf bound index) = some index := by
  obtain ⟨excess, hexcess, hproduct⟩ := wordOf_mul (Nat.zero_lt_of_lt h) index
  have hsmall : excess < UInt32.size := Nat.lt_trans hexcess hbound
  have hlower : (index * UInt32.size + excess) % UInt32.size = excess := by
    rw [Nat.mul_comm, Nat.mul_add_mod, Nat.mod_eq_of_lt hsmall]
  have hupper : (index * UInt32.size + excess) / UInt32.size = index := by
    rw [Nat.mul_comm, Nat.mul_add_div (by decide), Nat.div_eq_of_lt hsmall, Nat.add_zero]
  rw [indexOf?, hproduct, hlower, hupper, if_pos (lt_zone hexcess)]

theorem wordOf_lt {bound index : Nat} (hbound : bound < UInt32.size) (h : index < bound) :
    wordOf bound index < UInt32.size := by
  obtain ⟨excess, hexcess, hproduct⟩ := wordOf_mul (Nat.zero_lt_of_lt h) index
  have hindex : (index + 1) * UInt32.size ≤ bound * UInt32.size := Nat.mul_le_mul_right _ h
  have hlt : wordOf bound index * bound < UInt32.size * bound := by
    rw [Nat.mul_comm UInt32.size]
    rw [Nat.succ_mul] at hindex
    omega
  exact Nat.lt_of_mul_lt_mul_right hlt

/-! ## Words that come next -/

/-- These are the next words of the source. -/
def Supplies : Draws → List UInt32 → Prop
  | _, [] => True
  | d, word :: words => d.next.1 = word.toNat ∧ Supplies d.next.2 words

theorem supplies_drop (words : List UInt32) (position : Nat) :
    Supplies ⟨words.toArray, position⟩ (words.drop position) := by
  induction hrest : words.drop position generalizing position with
  | nil => trivial
  | cons word rest ih =>
    have hlt : position < words.length := by
      by_contra hle
      rw [List.drop_eq_nil_of_le (Nat.le_of_not_lt hle)] at hrest
      cases hrest
    obtain ⟨hword, hnext⟩ : words[position] = word ∧ words.drop (position + 1) = rest := by
      rw [List.drop_eq_getElem_cons hlt] at hrest
      exact List.cons.inj hrest
    refine ⟨?_, ih (position + 1) hnext⟩
    rw [next, ← hword]
    simp [Nat.mod_eq_of_lt hlt, hlt]

/-- A source starts with its words. -/
theorem supplies_ofWords (words : List UInt32) : Supplies (ofWords words.toArray) words :=
  supplies_drop words 0

/-- A word that gives an index is all that the draw of the index takes. -/
theorem below_of_next {bound index : Nat} {d : Draws} (h : indexOf? bound d.next.1 = some index)
    (tries : Nat) : below bound (tries + 1) d = (index, d.next.2) := by
  rw [below, h]

/-! ## Draws that end -/

/-- The word that is read when so many have been read from here. -/
def wordAt (d : Draws) (k : Nat) : Nat :=
  (d.words.getD ((d.position + k) % d.words.size) 0).toNat

theorem wordAt_next (d : Draws) (k : Nat) : d.next.2.wordAt k = d.wordAt (k + 1) := by
  rw [wordAt, wordAt, next, Nat.add_assoc, Nat.add_comm 1 k]

/-- Every word of the source comes within one replay. -/
theorem exists_wordAt {d : Draws} {word : UInt32} (h : word ∈ d.words) :
    ∃ k < d.words.size, d.wordAt k = word.toNat := by
  obtain ⟨i, hi, rfl⟩ := Array.getElem_of_mem h
  have hpos : 0 < d.words.size := Nat.zero_lt_of_lt hi
  let k := (i + d.words.size - d.position % d.words.size) % d.words.size
  have hsum : d.position % d.words.size + (i + d.words.size - d.position % d.words.size) =
      i + d.words.size := by
    have hmod := Nat.mod_lt d.position hpos
    omega
  have hplace : (d.position + k) % d.words.size = i := by
    rw [Nat.add_mod_mod, ← Nat.mod_add_mod, hsum, Nat.add_mod_right, Nat.mod_eq_of_lt hi]
  refine ⟨k, Nat.mod_lt _ hpos, ?_⟩
  rw [wordAt, hplace, Array.getD_eq_getD_getElem?, Array.getElem?_eq_getElem hi, Option.getD_some]

/-- A draw reads up to the first word that is not refused. -/
theorem below_of_first {bound index k tries : Nat} {d : Draws} (hk : k < tries)
    (hrefused : ∀ j < k, indexOf? bound (d.wordAt j) = none)
    (haccepted : indexOf? bound (d.wordAt k) = some index) :
    below bound tries d = (index, { d with position := d.position + (k + 1) }) := by
  induction tries generalizing k d with
  | zero => exact absurd hk (Nat.not_lt_zero k)
  | succ tries ih =>
    cases k with
    | zero => exact below_of_next haccepted tries
    | succ k =>
      have hfirst : indexOf? bound d.next.1 = none := hrefused 0 (Nat.succ_pos k)
      have hrest := ih (d := d.next.2) (Nat.lt_of_succ_lt_succ hk)
        (fun j hj => d.wordAt_next j ▸ hrefused (j + 1) (Nat.succ_lt_succ hj))
        (d.wordAt_next k ▸ haccepted)
      rw [below, hfirst]
      refine hrest.trans ?_
      rw [next, Nat.add_assoc, Nat.add_comm 1]

/-- **A draw ends as soon as a word is accepted**, and one replay of a source is enough for that
unless all of its words are refused.  Only then is there no draw, and the index made up. -/
theorem exists_below_eq {bound : Nat} {d : Draws}
    (h : ∃ word ∈ d.words, (indexOf? bound word.toNat).isSome) :
    ∃ k index, (∀ j < k, indexOf? bound (d.wordAt j) = none) ∧
      indexOf? bound (d.wordAt k) = some index ∧
      below bound (d.words.size + 1) d = (index, { d with position := d.position + (k + 1) }) := by
  obtain ⟨word, hmem, hword⟩ := h
  obtain ⟨n, hn, hread⟩ := exists_wordAt hmem
  have hexists : ∃ k, (indexOf? bound (d.wordAt k)).isSome := ⟨n, by rwa [hread]⟩
  obtain ⟨index, hindex⟩ := Option.isSome_iff_exists.1 (Nat.find_spec hexists)
  have hrefused : ∀ j < Nat.find hexists, indexOf? bound (d.wordAt j) = none := fun j hj =>
    Option.not_isSome_iff_eq_none.1 (Nat.find_min hexists hj)
  have hfind : Nat.find hexists ≤ n := Nat.find_min' hexists (by rwa [hread])
  exact ⟨Nat.find hexists, index, hrefused, hindex, below_of_first (by omega) hrefused hindex⟩

/-! ## Every order -/

/-- The items that are not fixed yet are those that the target has in the places left. -/
theorem take_perm {xs target : List α} {i : Nat} (hperm : xs.Perm target)
    (hfixed : ∀ k, i < k → xs[k]? = target[k]?) : (xs.take (i + 1)).Perm (target.take (i + 1)) := by
  have hdrop : xs.drop (i + 1) = target.drop (i + 1) := by
    apply List.ext_getElem?
    intro k
    rw [List.getElem?_drop, List.getElem?_drop]
    exact hfixed (i + 1 + k) (by omega)
  exact hperm.take (by rw [hdrop])

/-- A swap with place `i` puts another item there and changes no place behind it. -/
theorem getElem?_swapIfInBounds {xs : Array α} {i j k : Nat} (hi : i < xs.size) (hj : j ≤ i)
    (hk : i ≤ k) : (xs.swapIfInBounds i j)[k]? = if k = i then xs[j]? else xs[k]? := by
  have hj' : j < xs.size := Nat.lt_of_le_of_lt hj hi
  rw [Array.swapIfInBounds_def, dif_pos hi, dif_pos hj', Array.getElem?_swap]
  by_cases hki : k = i
  · subst hki
    by_cases hjk : j = k
    · simp [hjk, hi]
    · simp [hjk, hj']
  · rw [if_neg (by omega), if_neg (Ne.symm hki), if_neg hki]

/-- The items up to place `i` can be brought into the order of the target. -/
theorem exists_words_shuffleFrom (i : Nat) {xs : Array α} {target : List α}
    (hperm : xs.toList.Perm target) (hsize : xs.size < UInt32.size) (hi : i < xs.size)
    (hfixed : ∀ k, i < k → xs.toList[k]? = target[k]?) :
    ∃ words, ∀ d, Supplies d words → (shuffleFrom i xs d).1.toList = target := by
  induction i generalizing xs with
  | zero =>
    have hfirst := take_perm hperm hfixed
    refine ⟨[], fun d _ => List.ext_getElem? fun k => ?_⟩
    match k with
    | 0 =>
      rw [List.take_one, List.take_one] at hfirst
      rw [shuffleFrom, ← List.head?_eq_getElem?, ← List.head?_eq_getElem?]
      cases hx : xs.toList.head? <;> cases ht : target.head? <;> simp_all
    | k + 1 => exact hfixed (k + 1) (by omega)
  | succ i ih =>
    have hlength : i + 1 < target.length := by
      rw [← hperm.length_eq, Array.length_toList]
      exact hi
    -- The item that belongs into this place stands in one of the places left.
    obtain ⟨j, hj, hitem⟩ : ∃ j, j < i + 2 ∧ xs[j]? = some target[i + 1] := by
      have hmem : target[i + 1] ∈ target.take (i + 1 + 1) :=
        List.mem_take_iff_getElem.2 ⟨i + 1, by omega, rfl⟩
      rw [← (take_perm hperm hfixed).mem_iff] at hmem
      obtain ⟨j, hj, hitem⟩ := List.mem_take_iff_getElem.1 hmem
      refine ⟨j, by omega, ?_⟩
      rw [← Array.getElem?_toList, ← hitem]
      exact List.getElem?_eq_getElem _
    have hswapped : ∀ k, i < k → (xs.swapIfInBounds (i + 1) j).toList[k]? = target[k]? := by
      intro k hk
      rw [Array.getElem?_toList, getElem?_swapIfInBounds hi (by omega) (by omega)]
      split
      · rename_i hki
        rw [hitem, hki, List.getElem?_eq_getElem]
      · rw [← Array.getElem?_toList]
        exact hfixed k (by omega)
    obtain ⟨words, hwords⟩ := ih ((swapIfInBounds_perm xs (i + 1) j).toList.trans hperm)
      (by simpa using hsize) (by simp; omega) hswapped
    have hbound : i + 2 < UInt32.size := by omega
    refine ⟨UInt32.ofNat (wordOf (i + 2) j) :: words, fun d hd => ?_⟩
    obtain ⟨hword, hnext⟩ := hd
    have hindex : indexOf? (i + 2) d.next.1 = some j := by
      rw [hword, UInt32.toNat_ofNat', Nat.mod_eq_of_lt (wordOf_lt hbound hj)]
      exact indexOf?_wordOf hbound hj
    rw [shuffleFrom, below_of_next hindex]
    exact hwords _ hnext

/-- **Every order can be drawn** when the items are fewer than the words there are. -/
theorem exists_words_shuffle {xs target : List α} (hperm : xs.Perm target)
    (hsize : xs.length < UInt32.size) :
    ∃ words, (shuffle xs (ofWords words)).1 = target := by
  cases xs with
  | nil =>
    rw [List.nil_perm] at hperm
    exact ⟨#[], hperm.symm⟩
  | cons x rest =>
    have hfixed : ∀ k, (x :: rest).length - 1 < k → (x :: rest)[k]? = target[k]? := by
      intro k hk
      have hlength := hperm.length_eq
      rw [List.getElem?_eq_none (by omega), List.getElem?_eq_none (by omega)]
    have hplace : (x :: rest).length - 1 < (x :: rest).toArray.size := by simp
    obtain ⟨words, hwords⟩ :=
      @exists_words_shuffleFrom α _ (x :: rest).toArray target hperm hsize hplace hfixed
    exact ⟨words.toArray, hwords _ (supplies_ofWords words)⟩

end PgVitals.Draws

import PgVitals.Dictionary

/-!
# What a dictionary holds

Keys ascend, so the first entry found under a key is the only one: looking a key up finds exactly
the entries there are.
-/

namespace PgVitals.Dictionary

variable {β : Type}

theorem lookup_eq_some_iff {l : List (String × β)} (h : l.Pairwise fun a b => a.1 < b.1)
    (key : String) (value : β) : l.lookup key = some value ↔ (key, value) ∈ l := by
  induction l with
  | nil => simp
  | cons e rest ih =>
    obtain ⟨key', value'⟩ := e
    obtain ⟨hhead, hrest⟩ := List.pairwise_cons.1 h
    by_cases heq : key = key'
    · subst heq
      -- The keys ascend, so that behind an entry its key does not occur again.
      have hnot : (key, value) ∉ rest := fun hmem =>
        String.lt_irrefl key (hhead (key, value) hmem)
      simp [hnot, eq_comm]
    · have hbeq : (key == key') = false := beq_eq_false_iff_ne.2 heq
      rw [List.lookup_cons, hbeq, ih hrest]
      simp [heq]

theorem mem_entries_iff (d : Dictionary β) (key : String) (value : β) :
    (key, value) ∈ d.entries ↔ d.get? key = some value :=
  (lookup_eq_some_iff d.ascending key value).symm

theorem mem_keys_iff (d : Dictionary β) (key : String) :
    key ∈ d.keys ↔ ∃ value, d.get? key = some value := by
  simp [keys, ← mem_entries_iff]

end PgVitals.Dictionary

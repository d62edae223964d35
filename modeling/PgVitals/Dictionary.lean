/-!
# Dictionaries with ascending keys

A dictionary holds at most one value for each text, its entries in ascending order of the keys,
which is also the order of their UTF-8 bytes. Equal contents are equal dictionaries.
-/

namespace PgVitals

/-- A finite map from texts, its entries in ascending order of the keys. -/
structure Dictionary (β : Type) where
  entries : List (String × β)
  ascending : entries.Pairwise fun a b => a.1 < b.1

namespace Dictionary

variable {β : Type}

instance [DecidableEq β] : DecidableEq (Dictionary β) := fun a b =>
  decidable_of_iff (a.entries = b.entries) (by cases a; cases b; simp)

def empty : Dictionary β := ⟨[], .nil⟩

instance : Inhabited (Dictionary β) := ⟨empty⟩

/-- Puts an entry at its place in a list with ascending keys, over an entry of the same key. -/
def place (key : String) (value : β) : List (String × β) → List (String × β)
  | [] => [(key, value)]
  | e :: rest =>
    if key < e.1 then (key, value) :: e :: rest
    else if key = e.1 then (key, value) :: rest
    else e :: place key value rest

theorem mem_keys_place {key : String} {value : β} {l : List (String × β)} {e : String × β}
    (h : e ∈ place key value l) : e.1 = key ∨ e ∈ l := by
  induction l with
  | nil => simp [place] at h; simp [h]
  | cons x rest ih =>
    unfold place at h
    split at h
    · rcases List.mem_cons.1 h with rfl | h
      · exact .inl rfl
      · exact .inr h
    · split at h
      · rcases List.mem_cons.1 h with rfl | h
        · exact .inl rfl
        · exact .inr (List.mem_cons_of_mem _ h)
      · rcases List.mem_cons.1 h with rfl | h
        · exact .inr List.mem_cons_self
        · exact (ih h).imp_right (List.mem_cons_of_mem _)

theorem lt_of_not_lt_of_ne {a b : String} (h : ¬a < b) (hne : a ≠ b) : b < a := by
  rcases Std.le_total (a := a) (b := b) with hle | hle
  · exact absurd (Std.lt_of_le_of_ne hle hne) h
  · exact Std.lt_of_le_of_ne hle (Ne.symm hne)

theorem ascending_place {key : String} {value : β} {l : List (String × β)}
    (h : l.Pairwise fun a b => a.1 < b.1) :
    (place key value l).Pairwise fun a b => a.1 < b.1 := by
  induction l with
  | nil => simp [place]
  | cons x rest ih =>
    obtain ⟨hx, hrest⟩ := List.pairwise_cons.1 h
    unfold place
    split
    · rename_i hlt
      refine List.pairwise_cons.2 ⟨fun e he => ?_, h⟩
      rcases List.mem_cons.1 he with rfl | he
      · exact hlt
      · exact String.lt_trans hlt (hx e he)
    · split
      · rename_i _ heq
        exact List.pairwise_cons.2 ⟨fun e he => heq ▸ hx e he, hrest⟩
      · rename_i hnlt hne
        refine List.pairwise_cons.2 ⟨fun e he => ?_, ih hrest⟩
        rcases mem_keys_place he with hk | he
        · exact hk ▸ lt_of_not_lt_of_ne hnlt hne
        · exact hx e he

/-- The dictionary with an entry added, over an entry of the same key. -/
def insert (d : Dictionary β) (key : String) (value : β) : Dictionary β :=
  ⟨place key value d.entries, ascending_place d.ascending⟩

/-- The dictionary of the entries, a later one replacing an earlier one of the same key. -/
def ofList (l : List (String × β)) : Dictionary β :=
  l.foldl (fun d e => d.insert e.1 e.2) empty

def get? (d : Dictionary β) (key : String) : Option β := d.entries.lookup key

def keys (d : Dictionary β) : List String := d.entries.map Prod.fst

def isEmpty (d : Dictionary β) : Bool := d.entries.isEmpty

theorem keys_nodup (d : Dictionary β) : d.keys.Nodup := by
  refine List.pairwise_map.2 (d.ascending.imp fun {a b} h => ?_)
  intro e
  exact String.lt_irrefl b.1 (e ▸ h)

/-- After an insertion the key has the value put there and every other key the value it had. -/
theorem get?_insert (d : Dictionary β) (key k : String) (value : β) :
    (d.insert key value).get? k = if k = key then some value else d.get? k := by
  obtain ⟨l, hl⟩ := d
  simp only [insert, get?]
  induction l with
  | nil =>
    by_cases h : k = key
    · simp [place, h]
    · have hk : (k == key) = false := beq_eq_false_iff_ne.2 h
      simp [place, List.lookup_cons, hk, h]
  | cons x rest ih =>
    have ih := ih (List.pairwise_cons.1 hl).2
    obtain ⟨held, old⟩ := x
    simp only [place]
    split
    · by_cases h : k = key
      · simp [h]
      · have hk : (k == key) = false := beq_eq_false_iff_ne.2 h
        simp [List.lookup_cons, hk, h]
    · split
      · rename_i _ heq
        subst heq
        by_cases h : k = key
        · simp [h]
        · have hk : (k == key) = false := beq_eq_false_iff_ne.2 h
          simp [List.lookup_cons, h, hk]
      · rename_i _ hne
        by_cases hx : k = held
        · have h : ¬k = key := fun e => hne (e.symm.trans hx)
          have hk : (k == held) = true := beq_iff_eq.2 hx
          simp [List.lookup_cons, h, hk]
        · have hk : (k == held) = false := beq_eq_false_iff_ne.2 hx
          simp [List.lookup_cons, hk, ih]

end Dictionary

end PgVitals

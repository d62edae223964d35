import PgVitals.Proofs.Descriptor.Form

/-!
# Pointing a descriptor of pairs at another database

The descriptor that is pointed at a database names it once, at the place of the first pair that
named one or else at the end, and keeps every other pair.  Whether its text says the same depends
on one thing only.  A value left empty reads as empty at the end of the text alone; when no pair
names a database, the pair appended moves such a value away from the end, and reading takes the
new pair for it.  Everywhere else the text reads back as the descriptor that was written.
-/

namespace PgVitals.KeyValue

/-- Whether the pair names a database. -/
def namesDatabase (p : Pair) : Bool := p.key = databaseKey

/-- The second descriptor is the first one pointed at the database: it names the database, in a
single pair that stands where the first one to name a database stood, or last if there was none,
and its other pairs are those of the first in their order. -/
structure PointsAt (database : String) (d d' : KeyValue) : Prop where
  database?_eq : d'.database? = some database
  countP_eq : d'.pairs.countP namesDatabase = 1
  findIdx_eq : d'.pairs.findIdx namesDatabase = d.pairs.findIdx namesDatabase
  filter_eq : d'.pairs.filter (!namesDatabase ·) = d.pairs.filter (!namesDatabase ·)

/-! ## The pairs -/

variable {target : Pair} {pairs before after : List Pair}

theorem retargetPairs_of_none (h : ∀ p ∈ pairs, namesDatabase p = false) :
    retargetPairs target pairs = pairs ++ [target] := by
  induction pairs with
  | nil => rfl
  | cons p rest ih =>
    have hp : p.key ≠ databaseKey := by simpa [namesDatabase] using h p List.mem_cons_self
    rw [retargetPairs, if_neg hp, ih fun q hq => h q (List.mem_cons_of_mem _ hq)]
    rfl

theorem retargetPairs_append_cons {p : Pair} (h : ∀ q ∈ before, namesDatabase q = false)
    (hp : namesDatabase p = true) :
    retargetPairs target (before ++ p :: after) =
      before ++ target :: after.filter (!namesDatabase ·) := by
  induction before with
  | nil =>
    have hkey : p.key = databaseKey := by simpa [namesDatabase] using hp
    have hfilter : (fun q : Pair => decide (q.key ≠ databaseKey)) = (!namesDatabase ·) := by
      funext q
      simp [namesDatabase]
    rw [List.nil_append, retargetPairs, if_pos hkey, hfilter]
    rfl
  | cons q before ih =>
    have hq : q.key ≠ databaseKey := by simpa [namesDatabase] using h q List.mem_cons_self
    rw [List.cons_append, retargetPairs, if_neg hq,
      ih fun r hr => h r (List.mem_cons_of_mem _ hr)]
    rfl

/-- Either no pair names a database, or the first that does cuts the pairs in two. -/
theorem exists_first_name (pairs : List Pair) :
    (∀ p ∈ pairs, namesDatabase p = false) ∨
      ∃ before p after, pairs = before ++ p :: after ∧
        (∀ q ∈ before, namesDatabase q = false) ∧ namesDatabase p = true := by
  induction pairs with
  | nil => exact Or.inl (by simp)
  | cons p rest ih =>
    by_cases hp : namesDatabase p = true
    · exact Or.inr ⟨[], p, rest, rfl, by simp, hp⟩
    · rw [Bool.not_eq_true] at hp
      obtain hnone | ⟨before, q, after, rfl, hbefore, hq⟩ := ih
      · refine Or.inl ?_
        rw [List.forall_mem_cons]
        exact ⟨hp, hnone⟩
      · refine Or.inr ⟨p :: before, q, after, rfl, ?_, hq⟩
        rw [List.forall_mem_cons]
        exact ⟨hp, hbefore⟩

theorem filter_of_none (h : ∀ p ∈ pairs, namesDatabase p = false) :
    pairs.filter (!namesDatabase ·) = pairs := by
  rw [List.filter_eq_self]
  intro p hp
  simp [h p hp]

theorem filter_append_cons {p : Pair} (h : ∀ q ∈ before, namesDatabase q = false)
    (hp : namesDatabase p = true) :
    (before ++ p :: after).filter (!namesDatabase ·) =
      before ++ after.filter (!namesDatabase ·) := by
  rw [List.filter_append, filter_of_none h, List.filter_cons_of_neg (by simp [hp])]

theorem findIdx_of_none (h : ∀ p ∈ pairs, namesDatabase p = false) :
    pairs.findIdx namesDatabase = pairs.length :=
  List.findIdx_eq_length_of_false (by simpa using h)

theorem findIdx_append_cons {p : Pair} (h : ∀ q ∈ before, namesDatabase q = false)
    (hp : namesDatabase p = true) :
    (before ++ p :: after).findIdx namesDatabase = before.length := by
  rw [List.findIdx_append, findIdx_of_none h, List.findIdx_cons, hp]
  simp

/-! ## The descriptor -/

/-- A pair that stands behind pairs naming no database and before such pairs is what they name. -/
theorem pointsAt_of_split {database : String} {d d' : KeyValue} (before after : List Pair)
    (hpairs : d'.pairs = before ++ ⟨databaseKey, Value.quote database⟩ :: after)
    (hbefore : ∀ p ∈ before, namesDatabase p = false)
    (hafter : ∀ p ∈ after, namesDatabase p = false)
    (hplace : d.pairs.findIdx namesDatabase = before.length)
    (hothers : d.pairs.filter (!namesDatabase ·) = before ++ after) :
    PointsAt database d d' := by
  have htarget : namesDatabase ⟨databaseKey, Value.quote database⟩ = true := by
    simp [namesDatabase]
  have hcount : ∀ l : List Pair, (∀ p ∈ l, namesDatabase p = false) →
      l.countP namesDatabase = 0 := by
    intro l hl
    rw [List.countP_eq_zero]
    intro p hp
    simp [hl p hp]
  refine ⟨?_, ?_, ?_, ?_⟩
  · -- The last pair under a key counts, and none behind the new one names a database.
    have hnone : after.reverse.find? (fun p => decide (p.key = databaseKey)) = none := by
      rw [List.find?_eq_none]
      intro p hp
      simpa [namesDatabase] using hafter p (List.mem_reverse.1 hp)
    have hfind : d'.pairs.reverse.find? (fun p => decide (p.key = databaseKey)) =
        some ⟨databaseKey, Value.quote database⟩ := by
      rw [hpairs, List.reverse_append, List.reverse_cons, List.append_assoc, List.find?_append,
        hnone]
      simp
    rw [database?, hfind, Option.map_some, Value.unquote_quote]
  · rw [hpairs, List.countP_append, List.countP_cons_of_pos htarget, hcount before hbefore,
      hcount after hafter]
  · rw [hpairs, hplace, findIdx_append_cons hbefore htarget]
  · rw [hpairs, hothers, filter_append_cons hbefore htarget, filter_of_none hafter]

/-- Pointing a descriptor at a database does so, whatever its pairs are. -/
theorem pointsAt_retarget (database : String) (d : KeyValue) :
    PointsAt database d (d.retarget database) := by
  obtain hnone | ⟨before, p, after, hpairs, hbefore, hp⟩ := exists_first_name d.pairs
  · apply pointsAt_of_split d.pairs []
    · rw [retarget, retargetPairs_of_none hnone]
    · exact hnone
    · simp
    · exact findIdx_of_none hnone
    · rw [filter_of_none hnone, List.append_nil]
  · apply pointsAt_of_split before (after.filter (!namesDatabase ·))
    · rw [retarget, hpairs, retargetPairs_append_cons hbefore hp]
    · exact hbefore
    · intro q hq
      simpa using (List.mem_filter.1 hq).2
    · rw [hpairs, findIdx_append_cons hbefore hp]
    · rw [hpairs, filter_append_cons hbefore hp]

/-- Pointed at a database that it did not name, a descriptor has one pair more, at its end. -/
theorem PointsAt.pairs_eq_append {database : String} {d d' : KeyValue}
    (h : PointsAt database d d') (hnone : ∀ p ∈ d.pairs, namesDatabase p = false) :
    ∃ q, d'.pairs = d.pairs ++ [q] := by
  obtain hnone' | ⟨before, q, after, hpairs, hbefore, hq⟩ := exists_first_name d'.pairs
  · have hcount := h.countP_eq
    rw [List.countP_eq_zero.2 fun r hr => by simp [hnone' r hr]] at hcount
    simp at hcount
  · have hcount := h.countP_eq
    have hplace := h.findIdx_eq
    have hothers := h.filter_eq
    rw [hpairs, findIdx_append_cons hbefore hq, findIdx_of_none hnone] at hplace
    rw [hpairs, filter_append_cons hbefore hq, filter_of_none hnone] at hothers
    have hkept : after.filter (!namesDatabase ·) = [] := by
      have hlength := congrArg List.length hothers
      rw [List.length_append, hplace] at hlength
      exact List.length_eq_zero_iff.1 (by omega)
    have hafter : after = [] := by
      rw [hpairs, List.countP_append, List.countP_cons_of_pos hq] at hcount
      cases after with
      | nil => rfl
      | cons r after =>
        have hr : namesDatabase r = false := by
          rw [← Bool.not_eq_true]
          intro hr
          rw [List.countP_cons_of_pos hr] at hcount
          omega
        rw [List.filter_cons_of_pos (by simp [hr])] at hkept
        simp at hkept
    rw [hkept, List.append_nil] at hothers
    exact ⟨q, by rw [hpairs, hothers, hafter]⟩

/-! ## The text -/

theorem isWritten_target (database : String) :
    Pair.IsWritten ⟨databaseKey, Value.quote database⟩ := by
  have hname : databaseKey.toList ≠ [] := by
    decide +kernel
  have hkey : databaseKey.toList.all isKeyChar = true := by
    decide +kernel
  exact isWritten_quote hname (List.all_eq_true.1 hkey) database

/-- Pointed at a database, the pairs stay in written form unless a value left empty loses its
place at the end to the pair appended. -/
theorem isWritten_retarget_iff {d : KeyValue} (h : IsWritten d.pairs) (database : String) :
    IsWritten (d.retarget database).pairs ↔
      (∃ p ∈ d.pairs, namesDatabase p = true) ∨ ∀ p ∈ d.pairs, p.raw ≠ "" := by
  obtain hnone | ⟨before, p, after, hpairs, hbefore, hp⟩ := exists_first_name d.pairs
  · -- Without a name the new pair goes to the end, and then no value before it may be empty.
    have hsplit : (d.retarget database).pairs =
        d.pairs ++ [⟨databaseKey, Value.quote database⟩] := by
      rw [retarget, retargetPairs_of_none hnone]
    rw [hsplit]
    constructor
    · intro hwritten
      right
      intro q hq
      exact (List.pairwise_append.1 hwritten.raw_ne).2.2 q hq _ (List.mem_singleton_self _)
    · rintro (⟨q, hq, hname⟩ | hraw)
      · rw [hnone q hq] at hname
        simp at hname
      · refine ⟨fun q hq => ?_, List.pairwise_append.2 ⟨h.raw_ne, by simp, ?_⟩⟩
        · obtain hq | hq := List.mem_append.1 hq
          · exact h.each q hq
          · rw [List.mem_singleton.1 hq]
            exact isWritten_target database
        · exact fun q hq _ _ => hraw q hq
  · have hsplit : (d.retarget database).pairs =
        before ++ ⟨databaseKey, Value.quote database⟩ :: after.filter (!namesDatabase ·) := by
      rw [retarget, hpairs, retargetPairs_append_cons hbefore hp]
    refine iff_of_true ?_ (Or.inl ⟨p, by simp [hpairs], hp⟩)
    obtain ⟨hapart, hapart', hcross⟩ := List.pairwise_append.1 (hpairs ▸ h.raw_ne)
    have heach : ∀ q ∈ before ++ after, q.IsWritten := by
      intro q hq
      apply h.each
      rw [hpairs]
      obtain hq | hq := List.mem_append.1 hq
      · exact List.mem_append_left _ hq
      · exact List.mem_append_right _ (List.mem_cons_of_mem _ hq)
    rw [hsplit]
    refine ⟨fun q hq => ?_, List.pairwise_append.2 ⟨hapart, List.pairwise_cons.2 ⟨?_, ?_⟩, ?_⟩⟩
    · obtain hq | hq := List.mem_append.1 hq
      · exact heach q (List.mem_append_left _ hq)
      · obtain rfl | hq := List.mem_cons.1 hq
        · exact isWritten_target database
        · exact heach q (List.mem_append_right _ (List.mem_filter.1 hq).1)
    · exact fun _ _ => Value.quote_ne_empty database
    · exact (List.pairwise_cons.1 hapart').2.sublist List.filter_sublist
    · -- A pair before the first name is not last, so its value is not empty.
      exact fun q hq _ _ => hcross q hq p List.mem_cons_self

theorem key_head_retarget {d : KeyValue} {p : Pair} {rest : List Pair} (h : d.pairs = p :: rest)
    (database : String) :
    ∃ q rest', d.retarget database = ⟨q :: rest'⟩ ∧ q.key = p.key := by
  rw [retarget, h, retargetPairs]
  split
  · rename_i hkey
    exact ⟨_, _, rfl, hkey.symm⟩
  · exact ⟨p, _, rfl, rfl⟩

theorem retargetPairs_ne_nil (target : Pair) (pairs : List Pair) :
    retargetPairs target pairs ≠ [] := by
  cases pairs with
  | nil => simp [retargetPairs]
  | cons p rest =>
    rw [retargetPairs]
    split <;> simp

theorem eq_of_chars_retargetPairs {a b : String} (pairs : List Pair)
    (h : chars (retargetPairs ⟨databaseKey, Value.quote a⟩ pairs) =
      chars (retargetPairs ⟨databaseKey, Value.quote b⟩ pairs)) : a = b := by
  -- The texts differ only in the pair that names the database, and there only in the value.
  have hvalue : ∀ rest : List Pair,
      chars (⟨databaseKey, Value.quote a⟩ :: rest) = chars (⟨databaseKey, Value.quote b⟩ :: rest) →
        a = b := by
    intro rest htext
    rw [chars_cons, chars_cons] at htext
    have htarget := List.append_cancel_right htext
    rw [toList_text, toList_text] at htarget
    have hquoted : (Value.quote a).toList = (Value.quote b).toList :=
      (List.cons.inj (List.append_cancel_left htarget)).2
    exact Value.quote_injective (String.toList_inj.1 hquoted)
  induction pairs with
  | nil => exact hvalue [] h
  | cons p rest ih =>
    rw [retargetPairs, retargetPairs] at h
    split at h
    · exact hvalue _ h
    · rw [chars_cons, chars_cons, if_neg (retargetPairs_ne_nil _ rest),
        if_neg (retargetPairs_ne_nil _ rest)] at h
      exact ih (List.cons.inj (List.append_cancel_left h)).2

/-- Pointed at different databases, a descriptor has different texts. -/
theorem text_retarget_injective (d : KeyValue) :
    Function.Injective fun database => (d.retarget database).text := by
  intro a b h
  have hchars := congrArg String.toList h
  rw [toList_text_eq_chars, toList_text_eq_chars] at hchars
  exact eq_of_chars_retargetPairs d.pairs hchars

/-- **Pointing the text of a descriptor of pairs at a database.**  The text that comes out is read
as the descriptor pointed at the database exactly when the descriptor named a database before, or
left no value empty. -/
theorem retargetText_pointsAt_iff {s : String} {d : KeyValue}
    (h : Descriptor.read s = .ok (.keyValue d)) (database : String) :
    (∃ text d', Descriptor.retargetText s database = .ok text ∧
        Descriptor.read text = .ok (.keyValue d') ∧ PointsAt database d d') ↔
      (∃ p ∈ d.pairs, namesDatabase p = true) ∨ ∀ p ∈ d.pairs, p.raw ≠ "" := by
  have htext : Descriptor.retargetText s database = .ok (d.retarget database).text := by
    rw [Descriptor.retargetText, h]
    rfl
  obtain ⟨hwritten, p, rest, hpairs, hopens⟩ := Descriptor.pairs_of_read h
  rw [← isWritten_retarget_iff hwritten database]
  constructor
  · rintro ⟨text, d', -, hread, hpoints⟩
    obtain ⟨hwritten', -⟩ := Descriptor.pairs_of_read hread
    rw [isWritten_retarget_iff hwritten database]
    obtain hnone | ⟨before, q, after, hsplit, -, hq⟩ := exists_first_name d.pairs
    · right
      intro q hq
      obtain ⟨target, hpairs'⟩ := hpoints.pairs_eq_append hnone
      have hapart := hwritten'.raw_ne
      rw [hpairs'] at hapart
      exact (List.pairwise_append.1 hapart).2.2 q hq target (List.mem_singleton_self _)
    · exact Or.inl ⟨q, by simp [hsplit], hq⟩
  · intro hretargeted
    -- The first key is that of `d` or `dbname`, and neither is taken for the scheme of a URI.
    obtain ⟨q, rest', hcons, hkey⟩ := key_head_retarget hpairs database
    refine ⟨_, d.retarget database, htext, ?_, pointsAt_retarget database d⟩
    rw [hcons] at hretargeted ⊢
    exact Descriptor.read_text hretargeted (hkey ▸ hopens)

/-- A descriptor with quoted values and two names of a database, pointed at a database whose name
needs quotes. -/
theorem retargetText_pointsAt_two_names :
    Descriptor.read "host='a b'dbname=x port=1 dbname =y" =
        .ok (.keyValue ⟨[⟨"host", "'a b'"⟩, ⟨"dbname", "x"⟩, ⟨"port", "1"⟩, ⟨"dbname", "y"⟩]⟩) ∧
      ∃ text d', Descriptor.retargetText "host='a b'dbname=x port=1 dbname =y" "it's" = .ok text ∧
        Descriptor.read text = .ok (.keyValue d') ∧
        PointsAt "it's"
          ⟨[⟨"host", "'a b'"⟩, ⟨"dbname", "x"⟩, ⟨"port", "1"⟩, ⟨"dbname", "y"⟩]⟩ d' := by
  refine ⟨by decide +kernel, (retargetText_pointsAt_iff (by decide +kernel) "it's").2 ?_⟩
  exact Or.inl ⟨⟨"dbname", "x"⟩, by decide, by decide⟩

/-- The pair appended behind a value left empty is read as that value, and no database is
named. -/
theorem retargetText_after_empty_value :
    Descriptor.read "host=" = .ok (.keyValue ⟨[⟨"host", ""⟩]⟩) ∧
      Descriptor.retargetText "host=" "new" = .ok "host= dbname=new" ∧
      Descriptor.read "host= dbname=new" = .ok (.keyValue ⟨[⟨"host", "dbname=new"⟩]⟩) ∧
      (⟨[⟨"host", "dbname=new"⟩]⟩ : KeyValue).database? = none := by
  decide +kernel

end PgVitals.KeyValue

import PgVitals.FileTree
import PgVitals.Proofs.Steps

/-!
# What a tree of files holds

A tree is known by its nodes, and putting one in or taking one out changes one place.  Where a path
leads is decided by the directories alone, so while files come and go every path leads to where it
led before.  Each primitive is said by what it takes to succeed and what it then leaves behind.
-/

namespace PgVitals.FileTree

variable {t t' : FileTree} {base dir names place : List String} {path : String}

/-! ## Nodes -/

theorem lookup_filter_ne (place names : List String) (nodes : List (List String × Node)) :
    (nodes.filter fun e => e.1 ≠ place).lookup names =
      if names = place then none else nodes.lookup names := by
  induction nodes with
  | nil => simp
  | cons e rest ih =>
    obtain ⟨held, node⟩ := e
    by_cases hheld : held = place
    · subst hheld
      rw [List.filter_cons_of_neg (by simp), ih, List.lookup_cons]
      by_cases hnames : names = held
      · simp [hnames]
      · simp [hnames, beq_eq_false_iff_ne.2 hnames]
    · rw [List.filter_cons_of_pos (by simpa using hheld), List.lookup_cons, List.lookup_cons, ih]
      by_cases hnames : names = held
      · subst hnames
        simp [hheld]
      · simp [beq_eq_false_iff_ne.2 hnames]

theorem node?_of_ne_nil (h : names ≠ []) : t.node? names = t.nodes.lookup names := by
  cases names with
  | nil => exact absurd rfl h
  | cons name rest => rfl

theorem node?_put (hplace : place ≠ []) (node : Node) :
    (t.put place node).node? names = if names = place then some node else t.node? names := by
  by_cases hnames : names = []
  · subst hnames
    rw [if_neg (Ne.symm hplace)]
    rfl
  · rw [node?_of_ne_nil hnames, node?_of_ne_nil hnames, put, List.lookup_cons, lookup_filter_ne]
    by_cases heq : names = place
    · simp [heq]
    · simp [heq, beq_eq_false_iff_ne.2 heq]

theorem node?_erase (hplace : place ≠ []) :
    (t.erase place).node? names = if names = place then none else t.node? names := by
  by_cases hnames : names = []
  · subst hnames
    rw [if_neg (Ne.symm hplace)]
    rfl
  · rw [node?_of_ne_nil hnames, node?_of_ne_nil hnames, erase, lookup_filter_ne]

theorem erase_put (place : List String) (node : Node) :
    (t.put place node).erase place = t.erase place := by
  simp [erase, put]

theorem erase_of_none (hplace : place ≠ []) (h : t.node? place = none) : t.erase place = t := by
  rw [node?_of_ne_nil hplace, List.lookup_eq_none_iff] at h
  have hkept : ∀ e ∈ t.nodes, decide (e.1 ≠ place) = true := by
    intro e he
    have hne : place ≠ e.1 := by simpa using h e he
    exact decide_eq_true hne.symm
  rw [erase, List.filter_eq_self.2 hkept]

/-! ## Directories -/

/-- The trees have the same directories. -/
def SameDirectories (t t' : FileTree) : Prop :=
  ∀ names, t.node? names = some .directory ↔ t'.node? names = some .directory

theorem SameDirectories.symm (h : t.SameDirectories t') : t'.SameDirectories t :=
  fun names => (h names).symm

theorem SameDirectories.trans {t'' : FileTree} (h : t.SameDirectories t')
    (h' : t'.SameDirectories t'') : t.SameDirectories t'' := fun names => (h names).trans (h' names)

/-- A file in place of a file or of nothing makes no difference to the directories. -/
theorem sameDirectories_put (hplace : place ≠ []) (h : t.node? place ≠ some .directory)
    (content : String) : (t.put place (.file content)).SameDirectories t := by
  intro names
  rw [node?_put hplace]
  by_cases heq : names = place
  · subst heq
    simp [h]
  · rw [if_neg heq]

theorem sameDirectories_erase (hplace : place ≠ []) (h : t.node? place ≠ some .directory) :
    (t.erase place).SameDirectories t := by
  intro names
  rw [node?_erase hplace]
  by_cases heq : names = place
  · subst heq
    simp [h]
  · rw [if_neg heq]

/-! ## Walks -/

theorem walk_cons_eq_ok_iff {name : String} {rest : List String} :
    t.walk base (name :: rest) = .ok dir ↔
      if name = ".." then t.walk base.dropLast rest = .ok dir
      else name.utf8ByteSize ≤ longestName ∧ t.node? (base ++ [name]) = some .directory ∧
        t.walk (base ++ [name]) rest = .ok dir := by
  rw [walk]
  by_cases hup : name = ".."
  · rw [if_pos hup, if_pos hup]
  · rw [if_neg hup, if_neg hup]
    by_cases hlong : longestName < name.utf8ByteSize
    · simp [hlong, Nat.not_le.2 hlong]
    · rw [if_neg hlong]
      have hshort := Nat.not_lt.1 hlong
      cases t.node? (base ++ [name]) with
      | none => simp
      | some node =>
        cases node with
        | file content => simp
        | directory => simp [hshort]

theorem walk_congr (h : t.SameDirectories t') :
    t.walk base names = .ok dir ↔ t'.walk base names = .ok dir := by
  induction names generalizing base with
  | nil => rfl
  | cons name rest ih => rw [walk_cons_eq_ok_iff, walk_cons_eq_ok_iff, h, ih, ih]

theorem walk_append_eq_ok_iff {more : List String} :
    t.walk base (names ++ more) = .ok dir ↔
      ∃ between, t.walk base names = .ok between ∧ t.walk between more = .ok dir := by
  induction names generalizing base with
  | nil => simp [walk]
  | cons name rest ih =>
    simp only [List.cons_append, walk_cons_eq_ok_iff, ih]
    split
    · rfl
    · simp only [exists_and_left, and_assoc]

/-! ## Places -/

/-- The path leads to a name in a directory, whether or not there is anything of that name. -/
def LeadsTo (t : FileTree) (path : String) (names : List String) : Prop :=
  ∃ slash, t.locate path = .ok (.entry names slash)

/-- What a path holds, if it leads anywhere. -/
def at? (t : FileTree) (path : String) : Option Node :=
  match t.locate path with
  | .error _ => none
  | .ok .directory => some .directory
  | .ok (.entry names slash) => (t.node? names).filter fun node => !slash || node = .directory

/-- A path as written finds a place: the root, a directory that a point or two points name, or a
name in the directory that a walk through the names before it ends in. -/
inductive Finds (t : FileTree) (w : Written) : Place → Prop
  | root : w.names = [] → Finds t w .directory
  | directory {front : List String} {last : String} {dir : List String} :
      w.names = front ++ [last] → w.point = true ∨ last = ".." → t.walk [] w.names = .ok dir →
        Finds t w .directory
  | entry {front : List String} {last : String} {dir : List String} :
      w.names = front ++ [last] → w.point = false → last ≠ ".." →
        last.utf8ByteSize ≤ longestName → t.walk [] front = .ok dir →
          Finds t w (.entry (dir ++ [last]) w.slash)

theorem Finds.congr (h : t.SameDirectories t') {w : Written} {place : Place}
    (hfinds : t.Finds w place) : t'.Finds w place := by
  cases hfinds with
  | root hnames => exact .root hnames
  | directory hnames hlast hwalk => exact .directory hnames hlast ((walk_congr h).1 hwalk)
  | entry hnames hpoint hlast hshort hwalk =>
    exact .entry hnames hpoint hlast hshort ((walk_congr h).1 hwalk)

theorem finds_iff_of_point {w : Written} {front : List String} {last : String}
    (hnames : w.names = front ++ [last]) (hlast : w.point = true ∨ last = "..") {place : Place} :
    t.Finds w place ↔ (∃ dir, t.walk [] w.names = .ok dir) ∧ place = .directory := by
  constructor
  · rintro (hroot | ⟨-, -, hwalk⟩ | ⟨hnames', hpoint, hname, -, -⟩)
    · simp [hnames] at hroot
    · exact ⟨⟨_, hwalk⟩, rfl⟩
    · obtain rfl : last = _ := by simpa using (List.append_inj' (hnames.symm.trans hnames') rfl).2
      simp [hpoint, hname] at hlast
  · rintro ⟨⟨dir, hwalk⟩, rfl⟩
    exact .directory hnames hlast hwalk

theorem finds_iff_of_name {w : Written} {front : List String} {last : String}
    (hnames : w.names = front ++ [last]) (hpoint : w.point = false) (hlast : last ≠ "..")
    {place : Place} :
    t.Finds w place ↔ last.utf8ByteSize ≤ longestName ∧
      ∃ dir, t.walk [] front = .ok dir ∧ place = .entry (dir ++ [last]) w.slash := by
  constructor
  -- The two other ways to find a place need no name at all, or a point at the end.
  · rintro (hroot | ⟨hnames', hpoint', -⟩ | ⟨hnames', -, -, hshort, hwalk⟩)
    · simp [hnames] at hroot
    · obtain ⟨rfl, hsame⟩ := List.append_inj' (hnames.symm.trans hnames') rfl
      obtain rfl : last = _ := by simpa using hsame
      simp [hpoint, hlast] at hpoint'
    · obtain ⟨rfl, hsame⟩ := List.append_inj' (hnames.symm.trans hnames') rfl
      obtain rfl : last = _ := by simpa using hsame
      exact ⟨hshort, _, hwalk, rfl⟩
  · rintro ⟨hshort, dir, hwalk, rfl⟩
    exact .entry hnames hpoint hlast hshort hwalk

/-- Locating a path finds the place that its names lead to, and nothing else. -/
theorem locate_eq_ok_iff {place : Place} :
    t.locate path = .ok place ↔
      '\x00' ∉ path.toList ∧ path ≠ "" ∧ t.Finds (written path) place := by
  rw [locate]
  by_cases hnull : '\x00' ∈ path.toList
  · simp [hnull]
  by_cases hempty : path = ""
  · subst hempty
    simp
  simp only [List.contains_eq_mem, hnull, decide_false, String.isEmpty_iff, hempty,
    not_false_eq_true, true_and, Bool.false_eq_true, if_false, ne_eq]
  -- From here on only the names of the path matter, and the last one decides.
  generalize written path = w
  rcases List.eq_nil_or_concat w.names with hnames | ⟨front, last, hnames⟩
  · rw [hnames]
    constructor
    · rintro ⟨⟩
      exact .root hnames
    · rintro (_ | ⟨hnamed, _, _⟩ | ⟨hnamed, _, _, _, _⟩)
      · rfl
      · simp [hnames] at hnamed
      · simp [hnames] at hnamed
  · rw [List.concat_eq_append] at hnames
    have hlast : w.names.getLast? = some last := by simp [hnames]
    have hfront : w.names.dropLast = front := by simp [hnames]
    rw [hlast, hfront]
    by_cases hpoint : w.point = true ∨ last = ".."
    · rw [finds_iff_of_point hnames hpoint]
      dsimp only
      rw [if_pos (by simpa using hpoint), Except.map_eq_ok_iff]
      simp [eq_comm]
    · obtain ⟨hnopoint, hname⟩ := not_or.1 hpoint
      rw [finds_iff_of_name hnames (by simpa using hnopoint) hname]
      dsimp only
      rw [if_neg (by simpa using hpoint), Except.bind_eq_ok_iff]
      by_cases hlong : longestName < last.utf8ByteSize
      · simp [hlong, Nat.not_le.2 hlong]
      · simp [hlong, Nat.not_lt.1 hlong, eq_comm]

theorem LeadsTo.ne_nil (h : t.LeadsTo path names) : names ≠ [] := by
  obtain ⟨slash, hlocate⟩ := h
  obtain ⟨-, -, hfinds⟩ := locate_eq_ok_iff.1 hlocate
  cases hfinds
  simp

theorem locate_congr (h : t.SameDirectories t') {place : Place} :
    t.locate path = .ok place ↔ t'.locate path = .ok place := by
  rw [locate_eq_ok_iff, locate_eq_ok_iff]
  constructor
  · rintro ⟨hnull, hempty, hfinds⟩
    exact ⟨hnull, hempty, hfinds.congr h⟩
  · rintro ⟨hnull, hempty, hfinds⟩
    exact ⟨hnull, hempty, hfinds.congr h.symm⟩

theorem LeadsTo.congr (h : t.SameDirectories t') (hleads : t.LeadsTo path names) :
    t'.LeadsTo path names := by
  obtain ⟨slash, hlocate⟩ := hleads
  exact ⟨slash, (locate_congr h).1 hlocate⟩

theorem at?_of_locate {slash : Bool} (h : t.locate path = .ok (.entry names slash)) :
    t.at? path = (t.node? names).filter fun node => !slash || node = .directory := by
  rw [at?, h]

theorem at?_of_locate_file (h : t.locate path = .ok (.entry names false)) :
    t.at? path = t.node? names := by
  rw [at?_of_locate h]
  cases t.node? names <;> rfl

/-- What a path holds depends on the directories and on what is at the place it leads to. -/
theorem at?_congr (h : t.SameDirectories t')
    (hnode : ∀ names, t.LeadsTo path names → t.node? names = t'.node? names) :
    t.at? path = t'.at? path := by
  -- The directories decide which place a path leads to, and only then is the node looked at.
  cases hlocate : t.locate path with
  | error fault =>
    cases hlocate' : t'.locate path with
    | error fault' => rw [at?, at?, hlocate, hlocate']
    | ok place =>
      rw [(locate_congr h).2 hlocate'] at hlocate
      cases hlocate
  | ok place =>
    have hlocate' := (locate_congr h).1 hlocate
    cases place with
    | directory => rw [at?, at?, hlocate, hlocate']
    | entry names slash =>
      rw [at?_of_locate hlocate, at?_of_locate hlocate', hnode names ⟨slash, hlocate⟩]

/-! ## Primitives -/

theorem write_eq_ok_iff {content : String} {after : FileTree} :
    t.write path content = .ok after ↔
      ∃ place, t.locate path = .ok (.entry place false) ∧ t.node? place ≠ some .directory ∧
        after = t.put place (.file content) := by
  rw [write]
  split
  · rename_i fault hlocate
    simp [hlocate]
  · rename_i hlocate
    simp [hlocate]
  · rename_i place hlocate
    simp [hlocate]
  · rename_i place hlocate
    cases hnode : t.node? place with
    | none => simp [hlocate, hnode, eq_comm]
    | some node =>
      cases node with
      | file old => simp [hlocate, hnode, eq_comm]
      | directory => simp [hlocate, hnode]

theorem move_eq_ok_iff {source target : String} {after : FileTree} :
    t.move source target = .ok after ↔
      ∃ origin place content, t.locate source = .ok (.entry origin false) ∧
        t.locate target = .ok (.entry place false) ∧ t.node? origin = some (.file content) ∧
          t.node? place ≠ some .directory ∧
            after = (t.erase origin).put place (.file content) := by
  rw [move]
  rcases hsource : t.locate source with fault | ⟨origin, slash⟩ | _
  · simp
  · rcases htarget : t.locate target with fault | ⟨place, targetSlash⟩ | _
    · simp
    · rcases horigin : t.node? origin with _ | content | _
      · simp [horigin]
      · cases slash with
        | true => simp [horigin]
        | false =>
          cases targetSlash with
          | true => simp [horigin]
          | false =>
            rcases hplace : t.node? place with _ | old | _ <;> simp [horigin, hplace, eq_comm]
      · simp [horigin]
    · simp
  · cases t.locate target with
    | error fault => simp
    | ok place => simp

theorem remove_eq_ok_iff {after : FileTree} :
    t.remove path = .ok after ↔
      ∃ place content, t.locate path = .ok (.entry place false) ∧
        t.node? place = some (.file content) ∧ after = t.erase place := by
  rw [remove]
  rcases hlocate : t.locate path with fault | ⟨place, slash⟩ | _
  · simp
  · rcases hplace : t.node? place with _ | content | _
    · simp [hplace]
    · cases slash with
      | true => simp [hplace]
      | false => simp [hplace, eq_comm]
    · simp [hplace]
  · simp

end PgVitals.FileTree

import Mathlib.Data.List.Forall2
import PgVitals.Proofs.Metric.Families
import PgVitals.Proofs.Metric.Lines

/-!
# Nothing is lost in the exposition

A reader of the exposition cuts it at its line feeds, reads line by line, and collects what it reads
under the names of the metrics: what is told of a metric stands together, with the help text and the
kind told once and before the samples.  From the exposition of samples whose names are names of the
format it reads back all that was to be told, however hostile help texts and label values are.
-/

namespace PgVitals.Exposition

variable {α β γ : Type}

/-! ## Lines -/

/-- The lines of a text, each ended by a line feed. -/
def lines? : List Char → Option (List (List Char))
  | [] => some []
  | c :: rest =>
    if c = '\n' then (lines? rest).map ([] :: ·)
    else (lines? rest).bind fun
      | [] => none
      | line :: more => some ((c :: line) :: more)

theorem lines?_append {line : List Char} (h : '\n' ∉ line) (rest : List Char) :
    lines? (line ++ '\n' :: rest) = (lines? rest).map (line :: ·) := by
  induction line with
  | nil => rw [List.nil_append, lines?, if_pos rfl]
  | cons c line ih =>
    rw [List.mem_cons, not_or] at h
    obtain ⟨hc, hline⟩ := h
    rw [List.cons_append, lines?, if_neg (Ne.symm hc), ih hline]
    cases lines? rest <;> rfl

/-- What is cut apart is what was put together with line feeds. -/
theorem lines?_flatMap {all : List (List Char)} (h : ∀ line ∈ all, '\n' ∉ line) :
    lines? (all.flatMap fun line => line ++ ['\n']) = some all := by
  induction all with
  | nil => rfl
  | cons line rest ih =>
    obtain ⟨hline, hrest⟩ := List.forall_mem_cons.1 h
    rw [List.flatMap_cons, List.append_assoc, List.singleton_append, lines?_append hline, ih hrest,
      Option.map_some]

/-- Texts that are lines are the lines of what they make up together. -/
theorem lines?_of_writes {texts : List String} {items : List Line}
    (h : List.Forall₂ Writes texts items) :
    ∃ lines, lines? (texts.flatMap String.toList) = some lines ∧
      lines.mapM readLine? = some items ∧ lines.length = items.length := by
  induction h with
  | nil => exact ⟨[], rfl, rfl, rfl⟩
  | @cons text item texts items hfirst hrest ih =>
    obtain ⟨line, htext, hfeed, hread⟩ := hfirst
    obtain ⟨lines, hlines, hitems, hlength⟩ := ih
    refine ⟨line :: lines, ?_, ?_, congrArg Nat.succ hlength⟩
    · rw [List.flatMap_cons, htext, List.append_assoc, List.singleton_append, lines?_append hfeed,
        hlines, Option.map_some]
    · rw [List.mapM_cons, hread, hitems]
      rfl

/-! ## Families -/

/-- What is read of a family: what is told of a metric. -/
structure FamilyReading where
  name : String
  help : Option String := none
  kind : Option MetricKind := none
  samples : List SampleReading := []
deriving DecidableEq, Repr

/-- The family of a name, to be told more of, and those before it, the last in front.  A family that
others have followed is not taken up again. -/
def family? (name : String) : List FamilyReading → Option (FamilyReading × List FamilyReading)
  | [] => some (⟨name, none, none, []⟩, [])
  | f :: before =>
    if f.name = name then some (f, before)
    else if name ∈ before.map FamilyReading.name then none
    else some (⟨name, none, none, []⟩, f :: before)

/-- Collects a line.  Help text and kind are told once, and before the samples. -/
def collect? (families : List FamilyReading) : Line → Option (List FamilyReading)
  | .comment => some families
  | .help name help =>
    (family? name families).bind fun (f, before) =>
      if f.help = none ∧ f.samples = [] then some ({ f with help := some help } :: before) else none
  | .kind name kind =>
    (family? name families).bind fun (f, before) =>
      if f.kind = none ∧ f.samples = [] then some ({ f with kind := some kind } :: before) else none
  | .sample s =>
    (family? s.name families).map fun (f, before) =>
      { f with samples := f.samples ++ [s] } :: before

/-- Reads an exposition. -/
def read? (text : String) : Option (List FamilyReading) :=
  (lines? text.toList).bind fun lines =>
    (lines.mapM readLine?).bind fun items => (items.foldlM collect? []).map List.reverse

section

variable {name : String} {f : FamilyReading} {before : List FamilyReading}

theorem family?_current (f : FamilyReading) (before : List FamilyReading) :
    family? f.name (f :: before) = some (f, before) := by
  rw [family?, if_pos rfl]

theorem family?_new (h : name ∉ before.map FamilyReading.name) :
    family? name before = some (⟨name, none, none, []⟩, before) := by
  cases before with
  | nil => rfl
  | cons f before =>
    rw [List.map_cons, List.mem_cons, not_or] at h
    obtain ⟨hf, hbefore⟩ := h
    rw [family?, if_neg (Ne.symm hf), if_neg hbefore]

/-- Samples of a family are collected one after the other. -/
theorem foldlM_collect?_samples {samples : List SampleReading}
    (h : ∀ s ∈ samples, s.name = f.name) :
    (samples.map Line.sample).foldlM collect? (f :: before) =
      some ({ f with samples := f.samples ++ samples } :: before) := by
  induction samples generalizing f with
  | nil => simp
  | cons s rest ih =>
    obtain ⟨hs, hrest⟩ := List.forall_mem_cons.1 h
    have hcollect : collect? (f :: before) (.sample s) =
        some ({ f with samples := f.samples ++ [s] } :: before) := by
      rw [collect?, hs, family?_current]
      rfl
    have hmore := ih (f := { f with samples := f.samples ++ [s] }) hrest
    rw [List.append_assoc, List.singleton_append] at hmore
    rw [List.map_cons, List.foldlM_cons, hcollect]
    exact hmore

end

/-- The lines of a family. -/
def familyItems (f : Family) : List Line :=
  .help f.head.name f.head.help :: .kind f.head.name f.head.kind ::
    (f.members.map SampleReading.of).map .sample

/-- The reading of a family. -/
def FamilyReading.of (f : Family) : FamilyReading :=
  ⟨f.head.name, some f.head.help, some f.head.kind, f.members.map .of⟩

/-- A family of a new name is collected as a whole, and stands in front of those before it. -/
theorem foldlM_collect?_familyItems {f : Family} {before : List FamilyReading}
    (hnew : f.head.name ∉ before.map FamilyReading.name)
    (hmembers : ∀ s ∈ f.members, s.name = f.head.name) :
    (familyItems f).foldlM collect? before = some (.of f :: before) := by
  -- The help opens the family, the kind completes it, and each sample then finds it in front.
  have hhelp : collect? before (.help f.head.name f.head.help) =
      some (⟨f.head.name, some f.head.help, none, []⟩ :: before) := by
    rw [collect?, family?_new hnew]
    rfl
  have hkind : collect? (⟨f.head.name, some f.head.help, none, []⟩ :: before)
      (.kind f.head.name f.head.kind) =
        some (⟨f.head.name, some f.head.help, some f.head.kind, []⟩ :: before) := by
    rw [collect?, family?_current ⟨f.head.name, some f.head.help, none, []⟩]
    rfl
  have hnames : ∀ s ∈ f.members.map SampleReading.of, s.name = f.head.name :=
    List.forall_mem_map.2 hmembers
  have hsamples : ((f.members.map SampleReading.of).map Line.sample).foldlM collect?
      (⟨f.head.name, some f.head.help, some f.head.kind, []⟩ :: before) = some (.of f :: before) :=
    foldlM_collect?_samples hnames
  rw [familyItems, List.foldlM_cons, hhelp, Option.bind_eq_bind, Option.bind_some, List.foldlM_cons,
    hkind, Option.bind_eq_bind, Option.bind_some]
  exact hsamples

/-- Families of different names are collected one after the other. -/
theorem foldlM_collect?_families {all : List Family} {before : List FamilyReading}
    (hnodup : (all.map fun f => f.head.name).Nodup)
    (hnew : ∀ f ∈ all, f.head.name ∉ before.map FamilyReading.name)
    (hmembers : ∀ f ∈ all, ∀ s ∈ f.members, s.name = f.head.name) :
    (all.flatMap familyItems).foldlM collect? before =
      some ((all.map FamilyReading.of).reverse ++ before) := by
  induction all generalizing before with
  | nil => rfl
  | cons f rest ih =>
    obtain ⟨hfirst, hrest⟩ := List.forall_mem_cons.1 hnew
    obtain ⟨hown, hothers⟩ := List.forall_mem_cons.1 hmembers
    rw [List.map_cons, List.nodup_cons] at hnodup
    have hlater : ∀ g ∈ rest,
        g.head.name ∉ (FamilyReading.of f :: before).map FamilyReading.name := by
      intro g hg
      rw [List.map_cons, List.mem_cons, not_or]
      refine ⟨fun hsame => hnodup.1 ?_, hrest g hg⟩
      have hname : g.head.name = f.head.name := hsame
      rw [← hname]
      exact List.mem_map_of_mem hg
    rw [List.flatMap_cons, List.foldlM_append, foldlM_collect?_familyItems hfirst hown,
      Option.bind_eq_bind, Option.bind_some, ih hnodup.2 hlater hothers, List.map_cons,
      List.reverse_cons, List.append_assoc, List.singleton_append]

/-! ## The exposition -/

/-- The texts of the lines of a family. -/
def familyLines (f : Family) : List String :=
  helpLine f.head :: kindLine f.head :: f.members.map sampleLine

theorem toList_text (samples : List Sample) :
    (text samples).toList = ((families samples).flatMap familyLines).flatMap String.toList := by
  rw [text, String.toList_join, List.flatMap_map, List.flatMap_assoc]
  refine List.flatMap_congr fun f _ => ?_
  rw [familyText, String.toList_append, String.toList_append, String.toList_join, familyLines,
    List.flatMap_cons, List.flatMap_cons, List.append_assoc]

theorem writes_familyLines {f : Family} (hhead : WellNamed f.head)
    (hmembers : ∀ s ∈ f.members, WellNamed s) :
    List.Forall₂ Writes (familyLines f) (familyItems f) := by
  refine .cons (writes_helpLine hhead) (.cons (writes_kindLine hhead) ?_)
  rw [List.map_map, List.forall₂_map_left_iff, List.forall₂_map_right_iff, List.forall₂_same]
  exact fun s hs => writes_sampleLine (hmembers s hs)

theorem forall₂_flatMap {R : β → γ → Prop} {l : List α} {g : α → List β} {h : α → List γ}
    (hl : ∀ a ∈ l, List.Forall₂ R (g a) (h a)) : List.Forall₂ R (l.flatMap g) (l.flatMap h) := by
  induction l with
  | nil => exact .nil
  | cons a l ih =>
    obtain ⟨ha, hl⟩ := List.forall_mem_cons.1 hl
    exact List.rel_append ha (ih hl)

/-- There are two lines more than members in each family. -/
theorem length_flatMap_familyItems (all : List Family) :
    (all.flatMap familyItems).length = (all.flatMap Family.members).length + 2 * all.length := by
  induction all with
  | nil => rfl
  | cons f rest ih =>
    have hfirst : (familyItems f).length = f.members.length + 2 := by simp [familyItems]
    rw [List.flatMap_cons, List.flatMap_cons, List.length_append, List.length_append,
      List.length_cons, ih, hfirst]
    omega

theorem length_familyItems (samples : List Sample) :
    ((families samples).flatMap familyItems).length =
      samples.length + 2 * (heads samples).length := by
  rw [length_flatMap_familyItems, families_eq, List.flatMap_map, List.length_map,
    length_flatMap_members]

/-- **Nothing is lost in the exposition.**  Whatever help texts and label values hold, reading the
exposition gives for each metric, in the order in which the names first occur, the name, the help
text and the kind of its first sample, and of each of its samples, in order, the name, all labels
and the text of the value.  The exposition has one line for each sample and two for each metric. -/
theorem read?_text {samples : List Sample} (h : ∀ s ∈ samples, WellNamed s) :
    read? (text samples) = some ((heads samples).map fun head =>
        ⟨head.name, some head.help, some head.kind,
          (members samples head.name).map SampleReading.of⟩) ∧
      (lines? (text samples).toList).map List.length =
        some (samples.length + 2 * (heads samples).length) := by
  have hwrites : List.Forall₂ Writes ((families samples).flatMap familyLines)
      ((families samples).flatMap familyItems) := by
    refine forall₂_flatMap fun f hf => ?_
    rw [families_eq] at hf
    obtain ⟨head, hhead, rfl⟩ := List.mem_map.1 hf
    exact writes_familyLines (h head (mem_of_mem_heads hhead))
      fun s hs => h s (List.mem_of_mem_filter hs)
  obtain ⟨lines, hlines, hitems, hlength⟩ := lines?_of_writes hwrites
  -- Families are collected in front of one another, so the list comes out reversed.
  have hfamilies : ((families samples).flatMap familyItems).foldlM collect? [] =
      some (((families samples).map FamilyReading.of).reverse ++ []) := by
    refine foldlM_collect?_families ?_ (fun _ _ => List.not_mem_nil) ?_
    · rw [families_eq, List.map_map]
      exact nodup_names_heads samples
    · rw [families_eq]
      refine List.forall_mem_map.2 fun head _ s hs => ?_
      exact of_decide_eq_true (List.mem_filter.1 hs).2
  rw [← toList_text] at hlines
  constructor
  · rw [read?, hlines, Option.bind_some, hitems, Option.bind_some, hfamilies, Option.map_some,
      List.append_nil, List.reverse_reverse, families_eq, List.map_map]
    rfl
  · rw [hlines, Option.map_some, hlength, length_familyItems]

/-- A label value that looks like the end of its line and the start of another sample, a help text
of two lines, and a metric that is taken up again. -/
theorem read?_text_hostile :
    let hostile : Sample := ⟨"pg_info", "a \\ or\nb", .gauge, 1,
      .ofList [("name", "x\"\x7d 1\npg_info\x7bname=\"y"), ("path", "c:\\")]⟩
    let plain : Sample := ⟨"pg_up", "", .gauge, 0, .empty⟩
    let samples := [hostile, plain, { hostile with value := 2, labels := .empty }]
    (∀ s ∈ samples, WellNamed s) ∧
      read? (text samples) = some
        [⟨"pg_info", some "a \\ or\nb", some .gauge,
          [⟨"pg_info", [("name", "x\"\x7d 1\npg_info\x7bname=\"y"), ("path", "c:\\")], valueText 1⟩,
            ⟨"pg_info", [], valueText 2⟩]⟩,
          ⟨"pg_up", some "", some .gauge, [⟨"pg_up", [], valueText 0⟩]⟩] ∧
      (lines? (text samples).toList).map List.length = some 7 := by
  intro hostile plain samples
  have hnames : ∀ s ∈ samples, WellNamed s := by decide +kernel
  obtain ⟨hread, hlines⟩ := read?_text hnames
  exact ⟨hnames, hread, hlines⟩

end PgVitals.Exposition

import PgVitals.Proofs.Text.Cut
import PgVitals.Proofs.Text.Trim
import PgVitals.Settings

/-!
# Lists of names

The databases never to visit, those to scan every time and the superusers to expect are given as
texts: names with commas between them.  Every name stands in an entry of its own, where blanks may
surround it, and an entry of nothing but blanks stands for no name.

Reading takes a comma between two texts to a join of their names (`nameList_append`).  That law and
the two kinds of entry, blank (`nameList_of_isBlankText`) and named (`nameList_of_isName`), decide
what is read from any text.  The main statement says so in terms of entries: a text is read as a
list of names just when its entries spell that list, and the lists that can be read are those of
names that an entry can hold.
-/

namespace PgVitals

open Text

namespace NameList

/-! ## Names and entries -/

/-- A text without any character but blanks. -/
def IsBlankText (s : String) : Prop := ∀ c ∈ s.toList, isBlank c = true

instance (s : String) : Decidable (IsBlankText s) :=
  decidable_of_iff (s.toList.all isBlank = true) List.all_eq_true

theorem IsBlankText.comma_notMem {s : String} (h : IsBlankText s) : ',' ∉ s.toList :=
  fun hmem => absurd (h ',' hmem) (by decide)

/-- A text that an entry can hold as a name. -/
structure IsName (name : String) : Prop where
  ne_empty : name ≠ ""
  /-- A comma would end the entry. -/
  comma_notMem : ',' ∉ name.toList
  /-- No blank stands in front. -/
  isBlank_head? : ∀ c ∈ name.toList.head?, isBlank c = false
  /-- No blank stands at the end. -/
  isBlank_getLast? : ∀ c ∈ name.toList.getLast?, isBlank c = false

instance (name : String) : Decidable (IsName name) :=
  decidable_of_iff
    (name ≠ "" ∧ ',' ∉ name.toList ∧ name.toList.head?.all (!isBlank ·) = true ∧
      name.toList.getLast?.all (!isBlank ·) = true) <| by
    simp only [Option.all_eq_true, Bool.not_eq_true']
    exact ⟨fun ⟨hne, hcomma, hhead, hlast⟩ => ⟨hne, hcomma, hhead, hlast⟩,
      fun ⟨hne, hcomma, hhead, hlast⟩ => ⟨hne, hcomma, hhead, hlast⟩⟩

/-- Entries spell names: each name stands in an entry of its own, with blanks around it or none, in
the order of the names, and any number of blank entries stand before, between and behind them. -/
inductive Spell : List String → List String → Prop
  | nil : Spell [] []
  | blank {entry : String} {entries names : List String} :
      IsBlankText entry → Spell entries names → Spell (entry :: entries) names
  | name {before name after : String} {entries names : List String} :
      IsBlankText before → IsName name → IsBlankText after → Spell entries names →
      Spell ((before ++ name ++ after) :: entries) (name :: names)

variable {entries names : List String}

/-- Nothing but names is spelled. -/
theorem Spell.isName (h : Spell entries names) : ∀ name ∈ names, IsName name := by
  induction h with
  | nil => exact fun _ hmem => nomatch hmem
  | blank _ _ ih => exact ih
  | name _ hname _ _ ih => exact List.forall_mem_cons.2 ⟨hname, ih⟩

/-- Names spell themselves. -/
theorem Spell.self (h : ∀ name ∈ names, IsName name) : Spell names names := by
  induction names with
  | nil => exact .nil
  | cons name names ih =>
    obtain ⟨hname, hnames⟩ := List.forall_mem_cons.1 h
    have hnone : IsBlankText "" := by decide
    simpa using Spell.name hnone hname hnone (ih hnames)

/-- What trimming leaves of a text without a comma is a name, if it leaves anything. -/
theorem isName_trimmed {s : String} (hcomma : ',' ∉ s.toList) (hnil : trim s.toList ≠ []) :
    IsName (trimmed s) := by
  have htrimmed : (trimmed s).toList = trim s.toList := String.toList_ofList
  constructor
  · rw [Ne, ← String.toList_eq_nil_iff, htrimmed]
    exact hnil
  · rw [htrimmed]
    exact fun hmem => hcomma (mem_of_mem_trim hmem)
  · rw [htrimmed]
    exact fun _ => isBlank_of_mem_head?_trim
  · rw [htrimmed]
    exact fun _ => isBlank_of_mem_getLast?_trim

/-- A text without a comma is a blank entry, or one with a name. -/
theorem isBlankText_or_isName {s : String} (h : ',' ∉ s.toList) :
    IsBlankText s ∨ ∃ before name after, IsBlankText before ∧ IsName name ∧ IsBlankText after ∧
      s = before ++ name ++ after := by
  by_cases hnil : trim s.toList = []
  · exact .inl (trim_eq_nil_iff.1 hnil)
  · right
    obtain ⟨before, after, hbefore, hafter, hs⟩ := exists_blanks_around s.toList
    refine ⟨.ofList before, trimmed s, .ofList after, ?_, isName_trimmed h hnil, ?_, ?_⟩
    · simpa [IsBlankText] using hbefore
    · simpa [IsBlankText] using hafter
    · rw [trimmed, ← String.ofList_append, ← String.ofList_append, ← hs, String.ofList_toList]

end NameList

open NameList

variable {entries names : List String}

/-! ## Reading one entry -/

/-- A text without a comma is read as its trimmed form, unless that is empty. -/
theorem nameList_of_comma_notMem {s : String} (h : ',' ∉ s.toList) :
    nameList s = if trim s.toList = [] then [] else [trimmed s] := by
  rw [nameList, List.splitOn_eq_singleton h, List.map_singleton]
  by_cases hnil : trim s.toList = []
  · simp [hnil]
  · simp [hnil, trimmed]

theorem nameList_of_isBlankText {s : String} (h : IsBlankText s) : nameList s = [] := by
  rw [nameList_of_comma_notMem h.comma_notMem, if_pos (trim_eq_nil_iff.2 h)]

theorem nameList_of_isName {before name after : String} (hbefore : IsBlankText before)
    (hname : IsName name) (hafter : IsBlankText after) :
    nameList (before ++ name ++ after) = [name] := by
  have hcomma : ',' ∉ (before ++ name ++ after).toList := by
    simp only [String.toList_append, List.mem_append, not_or]
    exact ⟨⟨hbefore.comma_notMem, hname.comma_notMem⟩, hafter.comma_notMem⟩
  have htrim : trim (before ++ name ++ after).toList = name.toList := by
    rw [String.toList_append, String.toList_append, trim_append_append hbefore hafter,
      trim_eq_self hname.isBlank_head? hname.isBlank_getLast?]
  have hne : name.toList ≠ [] := by simpa using hname.ne_empty
  rw [nameList_of_comma_notMem hcomma, trimmed, htrim, if_neg hne, String.ofList_toList]

/-! ## Reading entries with commas between them -/

/-- **A comma between two texts puts the names of the second behind those of the first.** -/
theorem nameList_append (s t : String) :
    nameList (s ++ "," ++ t) = nameList s ++ nameList t := by
  have hcomma : (s ++ "," ++ t).toList = s.toList ++ ',' :: t.toList := by simp
  rw [nameList, hcomma, List.splitOn_append_cons_self, List.map_append, List.filter_append,
    List.map_append]
  rfl

theorem nameList_intercalate_cons (entry : String) (entries : List String) :
    nameList (",".intercalate (entry :: entries)) =
      nameList entry ++ nameList (",".intercalate entries) := by
  cases entries with
  | nil =>
    have hempty : nameList (",".intercalate []) = [] := rfl
    rw [hempty, String.intercalate_singleton, List.append_nil]
  | cons next rest => rw [String.intercalate_cons_cons, nameList_append]

/-- Entries are read as the names they spell. -/
theorem NameList.Spell.nameList_eq (h : Spell entries names) :
    nameList (",".intercalate entries) = names := by
  induction h with
  | nil => rfl
  | blank hentry _ ih =>
    rw [nameList_intercalate_cons, nameList_of_isBlankText hentry, ih, List.nil_append]
  | name hbefore hname hafter _ ih =>
    rw [nameList_intercalate_cons, nameList_of_isName hbefore hname hafter, ih,
      List.singleton_append]

/-- Entries without a comma in them spell what is read from them. -/
theorem spell_nameList (h : ∀ entry ∈ entries, ',' ∉ entry.toList) :
    Spell entries (nameList (",".intercalate entries)) := by
  induction entries with
  | nil => exact .nil
  | cons entry entries ih =>
    obtain ⟨hentry, hentries⟩ := List.forall_mem_cons.1 h
    rw [nameList_intercalate_cons]
    obtain hblank | ⟨before, name, after, hbefore, hname, hafter, rfl⟩ :=
      isBlankText_or_isName hentry
    · rw [nameList_of_isBlankText hblank]
      exact .blank hblank (ih hentries)
    · rw [nameList_of_isName hbefore hname hafter]
      exact .name hbefore hname hafter (ih hentries)

/-- Every text consists of entries with commas between them, and they spell what is read from it. -/
theorem exists_spell (s : String) :
    ∃ entries, s = ",".intercalate entries ∧ Spell entries (nameList s) := by
  have hs : s = ",".intercalate ((s.toList.splitOn ',').map String.ofList) := by
    rw [← String.toList_inj, String.toList_intercalate, List.map_map]
    simp [Function.comp_def]
  have hfree : ∀ entry ∈ (s.toList.splitOn ',').map String.ofList, ',' ∉ entry.toList := by
    intro entry hentry
    obtain ⟨part, hpart, rfl⟩ := List.mem_map.1 hentry
    simpa using notMem_of_mem_splitOn hpart
  have hspell := spell_nameList hfree
  rw [← hs] at hspell
  exact ⟨_, hs, hspell⟩

/-! ## What can be read -/

/-- A text is read as the names that its entries spell, and as nothing else. -/
theorem nameList_eq_iff {s : String} :
    nameList s = names ↔ ∃ entries, s = ",".intercalate entries ∧ Spell entries names := by
  constructor
  · rintro rfl
    exact exists_spell s
  · rintro ⟨entries, rfl, hspell⟩
    exact hspell.nameList_eq

theorem isName_of_mem_nameList {s name : String} (h : name ∈ nameList s) : IsName name := by
  obtain ⟨_, _, hspell⟩ := exists_spell s
  exact hspell.isName name h

/-- Names with commas between them, and nothing else, are read as they are. -/
theorem nameList_intercalate (h : ∀ name ∈ names, IsName name) :
    nameList (",".intercalate names) = names :=
  (Spell.self h).nameList_eq

/-- **Texts are read onto the lists of names:** a comma between two texts joins what is read from
them; the lists that can be read are those that consist of names; a text is read as a list just when
its entries spell it, whatever blanks surround the names and however many blank entries stand
between them; and what was read is read again from its names with commas between them. -/
theorem nameList_onto_names :
    (∀ s t, nameList (s ++ "," ++ t) = nameList s ++ nameList t) ∧
      (∀ names, (∃ s, nameList s = names) ↔ ∀ name ∈ names, IsName name) ∧
        (∀ s names, nameList s = names ↔
          ∃ entries, s = ",".intercalate entries ∧ Spell entries names) ∧
          ∀ s, nameList (",".intercalate (nameList s)) = nameList s := by
  refine ⟨nameList_append, fun names => ⟨?_, fun hnames => ?_⟩, fun s names => nameList_eq_iff,
    fun s => ?_⟩
  · rintro ⟨s, rfl⟩ name hmem
    exact isName_of_mem_nameList hmem
  · exact ⟨_, nameList_intercalate hnames⟩
  · exact nameList_intercalate fun name => isName_of_mem_nameList

/-- Blank entries stand first and between; one name has a blank inside and wide blanks around it. -/
theorem nameList_onto_names_wide_blanks :
    nameList " ,\u3000sales eu\u00a0, ,app=1," = ["sales eu", "app=1"] ∧
      IsName "sales eu" := by
  have hspell : Spell [" ", "\u3000" ++ "sales eu" ++ "\u00a0", " ", "" ++ "app=1" ++ "", ""]
      ["sales eu", "app=1"] :=
    .blank (by decide) <| .name (by decide) (by decide) (by decide) <| .blank (by decide) <|
      .name (by decide) (by decide) (by decide) <| .blank (by decide) .nil
  have hread := (nameList_onto_names.2.2.1 " ,\u3000sales eu\u00a0, ,app=1," _).2
    ⟨_, by decide, hspell⟩
  exact ⟨hread, (nameList_onto_names.2.1 _).1 ⟨_, hread⟩ "sales eu" List.mem_cons_self⟩

end PgVitals

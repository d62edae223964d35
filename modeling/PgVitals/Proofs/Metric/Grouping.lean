import PgVitals.Proofs.Metric.Reading

/-!
# One family for each name

What the exposition comes to, without regard to how families are collected: for each name, in the
order in which the names first occur, the two lines of its first sample and then a line for each of
its samples.  So every sample has one line, and every name one line of help and one for its kind.
The line of a sample is its name, its labels, a blank and its value, and ends at its one line feed.
-/

namespace PgVitals.Exposition

variable {samples : List Sample}

/-! ## The plain definition -/

/-- A line, told by the sample that it is made of. -/
inductive PrintedLine where
  | help (first : Sample)
  | kind (first : Sample)
  | sample (s : Sample)

namespace PrintedLine

def text : PrintedLine → String
  | help first => helpLine first
  | kind first => kindLine first
  | sample s => sampleLine s

def help? : PrintedLine → Option Sample
  | help first => some first
  | _ => none

def kind? : PrintedLine → Option Sample
  | kind first => some first
  | _ => none

def sample? : PrintedLine → Option Sample
  | sample s => some s
  | _ => none

end PrintedLine

/-- The lines of a name: those of its first sample, then one for each of its samples. -/
def linesOfName (samples : List Sample) (name : String) : List PrintedLine :=
  match samples.filter fun s => s.name = name with
  | [] => []
  | first :: more => .help first :: .kind first :: (first :: more).map .sample

/-- The lines of all names, in the order in which the names first occur. -/
def grouped (samples : List Sample) : List PrintedLine :=
  (samples.map Sample.name).eraseDups.flatMap (linesOfName samples)

/-- The heads bear the names in the order in which they first occur. -/
theorem names_heads (samples : List Sample) :
    (heads samples).map Sample.name = (samples.map Sample.name).eraseDups := by
  induction samples using List.reverseRecOn with
  | nil => rfl
  | append_singleton samples s ih =>
    have hadded : [s.name].removeAll (samples.map Sample.name) =
        if s.name ∈ samples.map Sample.name then [] else [s.name] := by
      rw [List.removeAll, List.filter_singleton]
      simp
    rw [heads_concat, List.map_append, List.map_singleton, List.eraseDups_append, hadded, ← ih]
    split <;> simp [List.eraseDups_cons]

/-- A head is the first of the samples of its name. -/
theorem linesOfName_head {head : Sample} (h : head ∈ heads samples) :
    linesOfName samples head.name =
      .help head :: .kind head :: (members samples head.name).map .sample := by
  -- A head is the first sample of its name, which is where the help and the kind come from.
  have hfirst : ∃ more, members samples head.name = head :: more := by
    induction samples with
    | nil => cases h
    | cons s rest ih =>
      obtain rfl | hrest := List.mem_cons.1 h
      · exact ⟨members rest head.name, List.filter_cons_of_pos (by simp)⟩
      · obtain ⟨hhead, hname⟩ := List.mem_filter.1 hrest
        have hother : ¬s.name = head.name := Ne.symm (of_decide_eq_true hname)
        obtain ⟨more, hmore⟩ := ih hhead
        refine ⟨more, ?_⟩
        rw [members, List.filter_cons_of_neg (by simpa using hother), ← members, hmore]
  obtain ⟨more, hmore⟩ := hfirst
  rw [linesOfName, ← members, hmore]

/-- The lines, told by the heads. -/
theorem grouped_eq (samples : List Sample) :
    grouped samples = (heads samples).flatMap fun head =>
      .help head :: .kind head :: (members samples head.name).map .sample := by
  rw [grouped, ← names_heads, List.flatMap_map]
  exact List.flatMap_congr fun head hhead => linesOfName_head hhead

theorem text_eq_grouped (samples : List Sample) :
    text samples = String.join ((grouped samples).map PrintedLine.text) := by
  have hlines : ∀ head, familyLines ⟨head, members samples head.name⟩ =
      (PrintedLine.help head :: .kind head :: (members samples head.name).map .sample).map
        PrintedLine.text := by
    intro head
    rw [familyLines, List.map_cons, List.map_cons, List.map_map]
    rfl
  rw [← String.toList_inj, toList_text, String.toList_join, families_eq, List.flatMap_map,
    grouped_eq, List.map_flatMap]
  simp only [hlines]

/-! ## The characters of the lines -/

/-- A label as it is printed: the name, and the value escaped between quotes. -/
def labelChars (label : String × String) : List Char :=
  label.1.toList ++ ['=', '"'] ++ label.2.toList.flatMap escapeLabelChar ++ ['"']

/-- The labels as they are printed: with commas between them and braces around them, or nothing. -/
def labelsChars : List (String × String) → List Char
  | [] => []
  | labels => ['\x7b'] ++ [','].intercalate (labels.map labelChars) ++ ['\x7d']

theorem toList_labelText (label : String × String) :
    (labelText label).toList = labelChars label := by
  simp [labelText, labelChars, toList_escapeLabel]

theorem toList_labelsText (labels : Dictionary String) :
    (labelsText labels).toList = labelsChars labels.entries := by
  rw [labelsText, Dictionary.isEmpty]
  cases labels.entries with
  | nil => rfl
  | cons label more =>
    have hall : ((label :: more).map labelText).map String.toList =
        (label :: more).map labelChars := by
      rw [List.map_map]
      exact List.map_congr_left fun l _ => toList_labelText l
    rw [labelsChars, ← hall]
    · simp [String.toList_intercalate]
    · exact List.cons_ne_nil label more

theorem toList_helpLine (s : Sample) :
    (helpLine s).toList = "# HELP ".toList ++ s.name.toList ++ [' '] ++
      s.help.toList.flatMap escapeHelpChar ++ ['\n'] := by
  simp [helpLine, toList_escapeHelp]

theorem toList_kindLine (s : Sample) :
    (kindLine s).toList =
      "# TYPE ".toList ++ s.name.toList ++ [' '] ++ s.kind.text.toList ++ ['\n'] := by
  simp [kindLine]

/-- The line of a sample is its name, its labels, a blank, its value and a line feed. -/
theorem toList_sampleLine (s : Sample) :
    (sampleLine s).toList = s.name.toList ++ labelsChars s.labels.entries ++ [' '] ++
      (valueText s.value).toList ++ ['\n'] := by
  simp [sampleLine, toList_labelsText]

namespace PrintedLine

/-- The characters of a line without the line feed. -/
def chars : PrintedLine → List Char
  | help first => "# HELP ".toList ++ first.name.toList ++ [' '] ++
      first.help.toList.flatMap escapeHelpChar
  | kind first => "# TYPE ".toList ++ first.name.toList ++ [' '] ++ first.kind.text.toList
  | sample s => s.name.toList ++ labelsChars s.labels.entries ++ [' '] ++ (valueText s.value).toList

/-- The sample that a line is made of. -/
def source : PrintedLine → Sample
  | help first => first
  | kind first => first
  | sample s => s

theorem toList_text_eq (line : PrintedLine) : line.text.toList = line.chars ++ ['\n'] := by
  cases line with
  | help first => exact toList_helpLine first
  | kind first => exact toList_kindLine first
  | sample s => exact toList_sampleLine s

theorem exists_writes {line : PrintedLine} (h : WellNamed line.source) :
    ∃ item, Writes line.text item := by
  cases line with
  | help first =>
    rw [text]
    exact ⟨_, writes_helpLine h⟩
  | kind first =>
    rw [text]
    exact ⟨_, writes_kindLine h⟩
  | sample s =>
    rw [text]
    exact ⟨_, writes_sampleLine h⟩

theorem newline_notMem_chars {line : PrintedLine} (h : WellNamed line.source) :
    '\n' ∉ line.chars := by
  obtain ⟨item, cs, htext, hfeed, -⟩ := exists_writes h
  rw [toList_text_eq] at htext
  rwa [List.append_cancel_right htext]

end PrintedLine

/-- Every line is made of one of the samples. -/
theorem source_mem {line : PrintedLine} (h : line ∈ grouped samples) : line.source ∈ samples := by
  rw [grouped_eq] at h
  obtain ⟨head, hhead, hline⟩ := List.mem_flatMap.1 h
  simp only [List.mem_cons, List.mem_map] at hline
  obtain rfl | rfl | ⟨s, hs, rfl⟩ := hline
  · exact mem_of_mem_heads hhead
  · exact mem_of_mem_heads hhead
  · exact List.mem_of_mem_filter hs

/-- **Cut at its line feeds, the exposition has the lines of the plain definition**, when names are
names of the format: no value of a label and no help text adds a line or takes one away. -/
theorem lines?_text (h : ∀ s ∈ samples, WellNamed s) :
    lines? (text samples).toList = some ((grouped samples).map PrintedLine.chars) := by
  have hfeeds : ∀ cs ∈ (grouped samples).map PrintedLine.chars, '\n' ∉ cs :=
    List.forall_mem_map.2 fun line hline =>
      PrintedLine.newline_notMem_chars (h _ (source_mem hline))
  have htext : (text samples).toList =
      ((grouped samples).map PrintedLine.chars).flatMap fun cs => cs ++ ['\n'] := by
    rw [text_eq_grouped, String.toList_join, List.flatMap_map, List.flatMap_map]
    exact List.flatMap_congr fun line _ => line.toList_text_eq
  rw [htext, lines?_flatMap hfeeds]

/-! ## Every line once -/

theorem filterMap_help?_grouped (samples : List Sample) :
    (grouped samples).filterMap PrintedLine.help? = heads samples := by
  simp [grouped_eq, List.filterMap_flatMap, List.filterMap_cons, PrintedLine.help?,
    Function.comp_def]

theorem filterMap_kind?_grouped (samples : List Sample) :
    (grouped samples).filterMap PrintedLine.kind? = heads samples := by
  simp [grouped_eq, List.filterMap_flatMap, List.filterMap_cons, PrintedLine.kind?,
    Function.comp_def]

theorem filterMap_sample?_grouped (samples : List Sample) :
    (grouped samples).filterMap PrintedLine.sample? =
      (heads samples).flatMap fun head => members samples head.name := by
  simp [grouped_eq, List.filterMap_flatMap, List.filterMap_cons, PrintedLine.sample?,
    Function.comp_def]

/-! ## The exposition -/

/-- **Every name has one family.**  Whatever the names, the exposition is, for each name in the
order of first occurrence, the help text and the kind of its first sample and then the lines of its
samples, in order.  Every sample has one line, and every name one line of help and one for its kind.
The index that the families are collected with leads to each of them, and they are those of the
plain definition.  What the line of a sample holds, `toList_sampleLine` says. -/
theorem text_grouped (samples : List Sample) :
    let names := (samples.map Sample.name).eraseDups
    let lines := names.flatMap (linesOfName samples)
    let shelf := samples.foldl Shelf.add {}
    text samples = String.join (lines.map PrintedLine.text) ∧
      (lines.filterMap PrintedLine.sample?).Perm samples ∧
      names.Nodup ∧
      (lines.filterMap PrintedLine.help?).map Sample.name = names ∧
      (lines.filterMap PrintedLine.kind?).map Sample.name = names ∧
      shelf.families.toList = samples.foldl addSample [] ∧ shelf.Indexed := by
  intro names lines shelf
  have hnames : (heads samples).map Sample.name = names := names_heads samples
  have hperm : (names.flatMap (members samples)).Perm samples := by
    rw [← hnames]
    exact flatMap_members_perm (nodup_names_heads samples)
      fun s hs => mem_names_heads_iff.2 (List.mem_map_of_mem hs)
  obtain ⟨hfamilies, hindexed⟩ := Shelf.foldl_add Shelf.indexed_empty samples
  refine ⟨text_eq_grouped samples, ?_, ?_, ?_, ?_, hfamilies, hindexed⟩
  · rw [← hnames, List.flatMap_map] at hperm
    exact (filterMap_sample?_grouped samples) ▸ hperm
  · rw [← hnames]
    exact nodup_names_heads samples
  · exact (congrArg _ (filterMap_help?_grouped samples)).trans hnames
  · exact (congrArg _ (filterMap_kind?_grouped samples)).trans hnames

end PgVitals.Exposition

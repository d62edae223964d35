import Mathlib.Data.List.TakeWhile
import PgVitals.Proofs.Metric.Escapes
import PgVitals.Proofs.Metric.Values
import PgVitals.Proofs.Text.Cut

/-!
# Reading a line of the exposition

A line tells the help text or the kind of a metric, or is a sample; other lines that start with a
number sign are comments.  The reader takes lines apart by the rules of the format, with one blank
between the parts: a name ends with the last character that can stand in a name, labels with the
brace, a label value with the first quote that no backslash escapes, and the rest of a line is the
value.  It reads back what was written.
-/

namespace PgVitals.Exposition

/-! ## Names -/

/-- The marks that stand in names of metrics besides letters and digits. -/
def metricMarks : List Char := ['_', ':']

/-- The mark that stands in names of labels besides letters and digits. -/
def labelMarks : List Char := ['_']

/-- Whether the character stands in a name with these marks. -/
def isNameChar (marks : List Char) (c : Char) : Bool := c.isAlphanum || marks.contains c

/-- Whether this is a name: not empty, and no digit comes first. -/
def isName (marks : List Char) : List Char → Bool
  | [] => false
  | c :: rest => !c.isDigit && (c :: rest).all (isNameChar marks)

/-- Reads a name as far as it goes; also what is behind it. -/
def readName? (marks : List Char) (cs : List Char) : Option (String × List Char) :=
  if isName marks (cs.takeWhile (isNameChar marks)) then
    some (.ofList (cs.takeWhile (isNameChar marks)), cs.dropWhile (isNameChar marks))
  else none

section

variable {marks name cs rest : List Char}

theorem isNameChar_of_isName (h : isName marks name = true) :
    ∀ c ∈ name, isNameChar marks c = true := by
  cases name with
  | nil => cases h
  | cons c name =>
    rw [isName, Bool.and_eq_true] at h
    exact List.all_eq_true.1 h.2

/-- A name is read up to a character that cannot stand in it. -/
theorem readName?_append {s : String} (h : isName marks s.toList = true) {c : Char}
    (hc : isNameChar marks c = false) (rest : List Char) :
    readName? marks (s.toList ++ c :: rest) = some (s, c :: rest) := by
  have hchars := isNameChar_of_isName h
  have hstop : ∀ d ∈ (c :: rest).head?, isNameChar marks d = false := by simpa using hc
  obtain ⟨htake, hdrop⟩ := Text.span_run hchars hstop
  rw [readName?, htake, if_pos h, hdrop, String.ofList_toList]

/-- A text that starts with a name starts with no other character. -/
theorem dropStart?_name (h : isName marks name = true) {c : Char} (hc : isNameChar marks c = false)
    (start rest : List Char) : Text.dropStart? (c :: start) (name ++ rest) = none := by
  cases name with
  | nil => cases h
  | cons first name =>
    have hfirst : c ≠ first := by
      rintro rfl
      rw [isNameChar_of_isName h c List.mem_cons_self] at hc
      cases hc
    rw [List.cons_append, Text.dropStart?, if_neg hfirst]

theorem length_of_readName? {name : String} (h : readName? marks cs = some (name, rest)) :
    rest.length ≤ cs.length := by
  rw [readName?] at h
  split_ifs at h with hname
  cases h
  exact List.length_dropWhile_le _ cs

end

/-! ## Samples -/

/-- Reads one label; also what is behind it. -/
def readLabel? (cs : List Char) : Option ((String × String) × List Char) :=
  (readName? labelMarks cs).bind fun (name, rest) =>
    (Text.dropStart? ['=', '"'] rest).bind fun quoted =>
      (readQuoted? quoted).map fun (value, after) => ((name, .ofList value), after)

theorem length_of_readLabel? {cs after : List Char} {label : String × String}
    (h : readLabel? cs = some (label, after)) : after.length < cs.length := by
  obtain ⟨⟨name, rest⟩, hname, h⟩ := Option.bind_eq_some_iff.1 h
  obtain ⟨quoted, hquoted, h⟩ := Option.bind_eq_some_iff.1 h
  obtain ⟨⟨value, behind⟩, hvalue, hlabel⟩ := Option.map_eq_some_iff.1 h
  cases hlabel
  have hrest := length_of_readName? hname
  rw [Text.dropStart?_eq_some_iff.1 hquoted] at hrest
  have hbehind := length_of_readQuoted? hvalue
  simp only [List.cons_append, List.nil_append, List.length_cons] at hrest
  omega

/-- Reads labels up to the closing brace; also what is behind it. -/
def readLabels? (cs : List Char) : Option (List (String × String) × List Char) :=
  match Text.dropStart? ['\x7d'] cs with
  | some rest => some ([], rest)
  | none =>
    -- The equation tells that what is behind the label is shorter.
    match _h : readLabel? cs with
    | none => none
    | some (label, behind) =>
      match behind with
      | ',' :: rest => (readLabels? rest).map fun (labels, after) => (label :: labels, after)
      | '\x7d' :: rest => some ([label], rest)
      | _ => none
termination_by cs.length
decreasing_by
  have hshorter := length_of_readLabel? _h
  rw [List.length_cons] at hshorter
  omega

/-- What is read of a sample. -/
structure SampleReading where
  name : String
  labels : List (String × String)
  value : String
deriving DecidableEq, Repr

/-- Reads the labels of a sample, if there are any; also what is behind them. -/
def readLabelsIfAny? (cs : List Char) : Option (List (String × String) × List Char) :=
  match Text.dropStart? ['\x7b'] cs with
  | some inner => readLabels? inner
  | none => some ([], cs)

/-- Reads the line of a sample. -/
def readSample? (cs : List Char) : Option SampleReading :=
  (readName? metricMarks cs).bind fun (name, rest) =>
    (readLabelsIfAny? rest).bind fun (labels, rest) =>
      (Text.dropStart? [' '] rest).bind fun value =>
        if isValueText value then some ⟨name, labels, .ofList value⟩ else none

/-! ## Lines -/

/-- What is read of a line. -/
inductive Line where
  | comment
  | help (name help : String)
  | kind (name : String) (kind : MetricKind)
  | sample (s : SampleReading)
deriving DecidableEq, Repr

/-- The kind of a word. -/
def kindOf? (word : List Char) : Option MetricKind :=
  [.gauge, .counter].find? fun kind : MetricKind => kind.text.toList = word

/-- Reads a name and the text behind a blank. -/
def readNamed? (cs : List Char) : Option (String × List Char) :=
  (readName? metricMarks cs).bind fun (name, rest) =>
    (Text.dropStart? [' '] rest).map fun text => (name, text)

/-- Reads a line. -/
def readLine? (cs : List Char) : Option Line :=
  match Text.dropStart? "# HELP ".toList cs, Text.dropStart? "# TYPE ".toList cs with
  | some rest, _ =>
    (readNamed? rest).bind fun (name, text) =>
      (unescape? text).map fun help => .help name (.ofList help)
  | none, some rest => (readNamed? rest).bind fun (name, word) => (kindOf? word).map (.kind name)
  | none, none =>
    if cs.isEmpty || (Text.dropStart? ['#'] cs).isSome then some .comment
    else (readSample? cs).map .sample

/-! ## What was written is read -/

/-- The names in a sample are names of the format. -/
def WellNamed (s : Sample) : Prop :=
  isName metricMarks s.name.toList = true ∧
    ∀ label ∈ s.labels.entries, isName labelMarks label.1.toList = true

instance : DecidablePred WellNamed := fun s =>
  inferInstanceAs (Decidable (isName metricMarks s.name.toList = true ∧
    ∀ label ∈ s.labels.entries, isName labelMarks label.1.toList = true))

/-- The reading of a sample. -/
def SampleReading.of (s : Sample) : SampleReading := ⟨s.name, s.labels.entries, valueText s.value⟩

theorem readLabel?_labelText {label : String × String}
    (h : isName labelMarks label.1.toList = true) (rest : List Char) :
    readLabel? ((labelText label).toList ++ rest) = some (label, rest) := by
  have htext : (labelText label).toList ++ rest =
      label.1.toList ++
        '=' :: ('"' :: (label.2.toList.flatMap escapeLabelChar ++ '"' :: rest)) := by
    simp [labelText, toList_escapeLabel]
  have hquoted : Text.dropStart? ['=', '"']
      ('=' :: ('"' :: (label.2.toList.flatMap escapeLabelChar ++ '"' :: rest))) =
        some (label.2.toList.flatMap escapeLabelChar ++ '"' :: rest) := rfl
  rw [htext, readLabel?, readName?_append h rfl]
  simp only [Option.bind_some, hquoted, readQuoted?_flatMap, Option.map_some, String.ofList_toList]

theorem dropStart?_labelText {label : String × String}
    (h : isName labelMarks label.1.toList = true) (rest : List Char) :
    Text.dropStart? ['\x7d'] ((labelText label).toList ++ rest) = none := by
  simp only [labelText, String.toList_append, List.append_assoc]
  exact dropStart?_name h rfl [] _

/-- Behind a comma there are more labels. -/
theorem readLabels?_comma {label : String × String} (h : isName labelMarks label.1.toList = true)
    (rest : List Char) :
    readLabels? ((labelText label).toList ++ ',' :: rest) =
      (readLabels? rest).map fun (labels, after) => (label :: labels, after) := by
  rw [readLabels?, dropStart?_labelText h]
  dsimp only
  split <;> rename_i hread <;> rw [readLabel?_labelText h] at hread <;> cases hread
  rfl

/-- Behind a closing brace there are none. -/
theorem readLabels?_brace {label : String × String} (h : isName labelMarks label.1.toList = true)
    (rest : List Char) :
    readLabels? ((labelText label).toList ++ '\x7d' :: rest) = some ([label], rest) := by
  rw [readLabels?, dropStart?_labelText h]
  dsimp only
  split <;> rename_i hread <;> rw [readLabel?_labelText h] at hread <;> cases hread
  rfl

/-- Labels are read up to the brace behind them. -/
theorem readLabels?_labelTexts {label : String × String} {labels : List (String × String)}
    (h : ∀ l ∈ label :: labels, isName labelMarks l.1.toList = true) (rest : List Char) :
    readLabels? ([','].intercalate ((label :: labels).map fun l => (labelText l).toList) ++
      '\x7d' :: rest) = some (label :: labels, rest) := by
  induction labels generalizing label with
  | nil =>
    rw [List.map_singleton, List.intercalate_singleton]
    exact readLabels?_brace (h label List.mem_cons_self) rest
  | cons next labels ih =>
    obtain ⟨hlabel, hmore⟩ := List.forall_mem_cons.1 h
    have hread := readLabels?_comma hlabel
      ([','].intercalate ((next :: labels).map fun l => (labelText l).toList) ++ '\x7d' :: rest)
    rw [ih hmore, Option.map_some] at hread
    rw [List.map_cons, List.map_cons, List.intercalate_cons_cons, List.append_assoc,
      List.append_assoc]
    exact hread

/-- The labels of a sample are read back, and the blank behind them is left. -/
theorem readLabelsIfAny?_labelsText {labels : Dictionary String}
    (h : ∀ label ∈ labels.entries, isName labelMarks label.1.toList = true) (value : List Char) :
    readLabelsIfAny? ((labelsText labels).toList ++ ' ' :: value) =
      some (labels.entries, ' ' :: value) := by
  rcases hentries : labels.entries with _ | ⟨label, more⟩
  · have htext : labelsText labels = "" := by
      rw [labelsText, Dictionary.isEmpty, hentries]
      rfl
    rw [htext]
    rfl
  · have htext : (labelsText labels).toList ++ ' ' :: value =
        '\x7b' :: ([','].intercalate ((label :: more).map fun l => (labelText l).toList) ++
          '\x7d' :: ' ' :: value) := by
      simp [labelsText, Dictionary.isEmpty, hentries, String.toList_intercalate, List.map_map,
        Function.comp_def]
    rw [hentries] at h
    rw [htext]
    exact readLabels?_labelTexts h _

/-- The labels end the name, and so does the blank if there are none. -/
theorem exists_cons_labelsText (labels : Dictionary String) (value : List Char) :
    ∃ c behind, (labelsText labels).toList ++ ' ' :: value = c :: behind ∧
      isNameChar metricMarks c = false := by
  unfold labelsText
  split_ifs with hempty
  · exact ⟨' ', value, rfl, rfl⟩
  · refine ⟨'\x7b', (String.intercalate "," (labels.entries.map labelText) ++ "\x7d").toList ++
      ' ' :: value, ?_, rfl⟩
    simp

theorem readSample?_of {s : Sample} (h : WellNamed s) :
    readSample? (s.name.toList ++
      ((labelsText s.labels).toList ++ ' ' :: (valueText s.value).toList)) = some (.of s) := by
  obtain ⟨c, behind, hbehind, hc⟩ :=
    exists_cons_labelsText s.labels (valueText s.value).toList
  have hname := readName?_append h.1 hc behind
  rw [← hbehind] at hname
  have hvalue : Text.dropStart? [' '] (' ' :: (valueText s.value).toList) =
      some (valueText s.value).toList := rfl
  rw [readSample?, hname]
  simp only [Option.bind_some, readLabelsIfAny?_labelsText h.2, hvalue, isValueText_valueText,
    if_true, String.ofList_toList, SampleReading.of]

/-! ## No line is broken -/

theorem newline_notMem_of_isName {marks name : List Char} (hmarks : '\n' ∉ marks)
    (h : isName marks name = true) : '\n' ∉ name := by
  intro hmem
  have hchar := isNameChar_of_isName h '\n' hmem
  rw [isNameChar, Bool.or_eq_true, List.contains_iff_mem] at hchar
  obtain hchar | hchar := hchar
  · cases hchar
  · exact hmarks hchar

theorem newline_notMem_of_isValueText {value : List Char} (h : isValueText value = true) :
    '\n' ∉ value := by
  intro hmem
  rw [isValueText, Bool.and_eq_true] at h
  have hchar := List.all_eq_true.1 h.2 '\n' hmem
  cases hchar

theorem notMem_intercalate {c : Char} {separator : List Char} {parts : List (List Char)}
    (hseparator : c ∉ separator) (h : ∀ part ∈ parts, c ∉ part) :
    c ∉ separator.intercalate parts := by
  induction parts with
  | nil => simp
  | cons part parts ih =>
    obtain ⟨hpart, hparts⟩ := List.forall_mem_cons.1 h
    cases parts with
    | nil =>
      rw [List.intercalate_singleton]
      exact hpart
    | cons next parts =>
      rw [List.intercalate_cons_cons]
      simp only [List.mem_append, not_or]
      exact ⟨⟨hpart, hseparator⟩, ih hparts⟩

theorem newline_notMem_labelText {label : String × String}
    (h : isName labelMarks label.1.toList = true) : '\n' ∉ (labelText label).toList := by
  have hname := newline_notMem_of_isName (by decide) h
  have hvalue := newline_notMem_flatMap (by decide) escape_escapeLabelChar label.2.toList
  simp [labelText, toList_escapeLabel, hname, hvalue]

theorem newline_notMem_labelsText {labels : Dictionary String}
    (h : ∀ label ∈ labels.entries, isName labelMarks label.1.toList = true) :
    '\n' ∉ (labelsText labels).toList := by
  unfold labelsText
  split_ifs with hempty
  · decide
  · have hlabels : '\n' ∉ [','].intercalate ((labels.entries.map labelText).map String.toList) := by
      refine notMem_intercalate (by decide) ?_
      rw [List.map_map]
      exact List.forall_mem_map.2 fun label hlabel => newline_notMem_labelText (h label hlabel)
    simpa [String.toList_intercalate] using hlabels

/-! ## Lines that were written -/

/-- The text is one line, and it is read as the item. -/
def Writes (text : String) (item : Line) : Prop :=
  ∃ line, text.toList = line ++ ['\n'] ∧ '\n' ∉ line ∧ readLine? line = some item

theorem readNamed?_append {s : String} (h : isName metricMarks s.toList = true)
    (text : List Char) : readNamed? (s.toList ++ ' ' :: text) = some (s, text) := by
  rw [readNamed?, readName?_append h rfl]
  rfl

theorem writes_helpLine {s : Sample} (h : WellNamed s) :
    Writes (helpLine s) (.help s.name s.help) := by
  have hname := newline_notMem_of_isName (by decide) h.1
  have hhelp := newline_notMem_flatMap (by decide) escape_escapeHelpChar s.help.toList
  refine ⟨"# HELP ".toList ++ (s.name.toList ++ ' ' :: s.help.toList.flatMap escapeHelpChar),
    ?_, ?_, ?_⟩
  · simp [helpLine, toList_escapeHelp]
  · simp [hname, hhelp]
  · rw [readLine?, Text.dropStart?_eq_some_iff.2 rfl]
    simp only [readNamed?_append h.1, unescape?_flatMap, Option.bind_some, Option.map_some,
      String.ofList_toList]

theorem kindOf?_text (kind : MetricKind) : kindOf? kind.text.toList = some kind := by
  cases kind <;> decide

theorem writes_kindLine {s : Sample} (h : WellNamed s) :
    Writes (kindLine s) (.kind s.name s.kind) := by
  have hname := newline_notMem_of_isName (by decide) h.1
  have hkind : '\n' ∉ s.kind.text.toList := by cases s.kind <;> decide
  refine ⟨"# TYPE ".toList ++ (s.name.toList ++ ' ' :: s.kind.text.toList), ?_, ?_, ?_⟩
  · simp [kindLine]
  · simp [hname, hkind]
  · have hhelp : Text.dropStart? "# HELP ".toList
        ("# TYPE ".toList ++ (s.name.toList ++ ' ' :: s.kind.text.toList)) = none := rfl
    rw [readLine?, hhelp, Text.dropStart?_eq_some_iff.2 rfl]
    simp only [readNamed?_append h.1, kindOf?_text, Option.bind_some, Option.map_some]

theorem writes_sampleLine {s : Sample} (h : WellNamed s) :
    Writes (sampleLine s) (.sample (.of s)) := by
  have hname := newline_notMem_of_isName (by decide) h.1
  have hlabels := newline_notMem_labelsText h.2
  have hvalue := newline_notMem_of_isValueText (isValueText_valueText s.value)
  refine ⟨s.name.toList ++ ((labelsText s.labels).toList ++ ' ' :: (valueText s.value).toList),
    ?_, ?_, ?_⟩
  · simp [sampleLine]
  · simp [hname, hlabels, hvalue]
  · -- A name starts with none of the characters that other lines start with.
    have hsample := readSample?_of h
    generalize (labelsText s.labels).toList ++ ' ' :: (valueText s.value).toList = rest at hsample ⊢
    have hhelp : Text.dropStart? "# HELP ".toList (s.name.toList ++ rest) = none :=
      dropStart?_name h.1 rfl _ rest
    have hkind : Text.dropStart? "# TYPE ".toList (s.name.toList ++ rest) = none :=
      dropStart?_name h.1 rfl _ rest
    have hmark : Text.dropStart? ['#'] (s.name.toList ++ rest) = none :=
      dropStart?_name h.1 rfl [] rest
    have hempty : (s.name.toList ++ rest).isEmpty = false := by
      rcases hchars : s.name.toList with _ | ⟨c, name⟩
      · have hnamed := h.1
        rw [hchars] at hnamed
        cases hnamed
      · rfl
    rw [readLine?, hhelp, hkind]
    simp only [hmark, hempty, hsample, Option.isSome_none, Bool.or_self, Bool.false_eq_true,
      if_false, Option.map_some]

end PgVitals.Exposition

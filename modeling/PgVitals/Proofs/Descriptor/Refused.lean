import PgVitals.Proofs.Descriptor.Form
import PgVitals.Proofs.Text.Quoted

/-!
# What a refusal shows

A text with the separator of a URI in it is refused, if at all, with a message.  When a scheme
stands before the separator, the message names the scheme and nothing behind it.  When something
else stands there, the text is read as pairs, and what stands behind the separator belongs to the
first key, which the message quotes: user and password are shown then.
-/

namespace PgVitals.Descriptor

open Text KeyValue

/-! ## The separator -/

/-- What stands between the scheme of a URI and its authority. -/
def separator : List Char := [':', '/', '/']

theorem isKeyChar_of_mem_separator : ∀ c ∈ separator, isKeyChar c = true :=
  List.all_eq_true.1 (by decide)

variable {front : List Char}

/-- Behind characters without a separator the first separator is the one put there: no end of them
makes a separator with a part of it. -/
theorem cutAtText?_separator (h : ¬separator <:+: front) (rest : List Char) :
    cutAtText? separator (front ++ (separator ++ rest)) = some (front, rest) := by
  induction front with
  | nil => rfl
  | cons c front ih =>
    have hfront : ¬separator <:+: front := fun hinfix => h (List.infix_cons hinfix)
    have hhere : separator.isPrefixOf (c :: (front ++ (separator ++ rest))) = false := by
      rw [← Bool.not_eq_true, List.isPrefixOf_iff_prefix]
      intro hprefix
      -- The separator has three characters, so if it started here it would end within the front
      -- unless that has fewer than three left.
      match front with
      | [] => simp [separator] at hprefix
      | [d] => simp [separator] at hprefix
      | d :: e :: front =>
        have hshort : separator <+: c :: d :: e :: front :=
          List.prefix_of_prefix_length_le hprefix (List.prefix_append (c :: d :: e :: front) _)
            (by simp [separator])
        exact h hshort.isInfix
    rw [List.cons_append, cutAtText?, hhere, ih hfront]
    rfl

theorem schemeName?_separator (h : ¬separator <:+: front) (rest : List Char) :
    schemeName? (front ++ (separator ++ rest)) =
      if isSchemeName front then some front else none := by
  have hcut := cutAtText?_separator h rest
  rw [separator] at hcut ⊢
  rw [schemeName?, hcut]

/-- A text begins with one of the two schemes only if that is what stands before its separator. -/
theorem isSchemeName_of_dropStart? (h : ¬separator <:+: front) {rest tail : List Char}
    {scheme : Scheme}
    (hdrop : dropStart? scheme.text.toList (front ++ (separator ++ rest)) = some tail) :
    isSchemeName front = true := by
  have hscheme : ∃ name, scheme.text.toList = name ++ separator ∧ ¬separator <:+: name ∧
      isSchemeName name = true := by
    cases scheme with
    | postgres => exact ⟨"postgres".toList, by decide +kernel⟩
    | postgresql => exact ⟨"postgresql".toList, by decide +kernel⟩
  obtain ⟨name, hname_text, hname, hvalid⟩ := hscheme
  have htext : front ++ (separator ++ rest) = name ++ (separator ++ tail) := by
    rw [dropStart?_eq_some_iff.1 hdrop, hname_text, List.append_assoc]
  have hcut := cutAtText?_separator h rest
  rw [htext, cutAtText?_separator hname tail, Option.some.injEq, Prod.mk.injEq] at hcut
  rwa [← hcut.1]

/-! ## Schemes -/

/-- Behind a scheme nothing that stands in the text is shown. -/
theorem fault_of_isSchemeName (h : ¬separator <:+: front) (hscheme : isSchemeName front = true)
    {rest : List Char} {fault : Fault}
    (hread : readTrimmed (front ++ (separator ++ rest)) = .error fault) :
    fault = .invalidDescriptor ("unsupported URI scheme " ++ quoted (String.ofList front)) := by
  rw [readTrimmed, schemeName?_separator h, if_pos hscheme] at hread
  split at hread
  · cases hread
  · split at hread
    · cases hread
    · exact (Except.error.inj hread).symm

/-- What stands before the separator is no scheme, and the text is read as pairs. -/
theorem readTrimmed_of_not_isSchemeName (h : ¬separator <:+: front)
    (hscheme : isSchemeName front = false) (rest : List Char) :
    readTrimmed (front ++ (separator ++ rest)) =
      (KeyValue.read (front ++ (separator ++ rest))).map .keyValue := by
  have hdrop : ∀ scheme : Scheme,
      dropStart? scheme.text.toList (front ++ (separator ++ rest)) = none := by
    intro scheme
    rw [Option.eq_none_iff_forall_ne_some]
    intro tail htail
    rw [isSchemeName_of_dropStart? h htail] at hscheme
    cases hscheme
  rw [readTrimmed, hdrop, hdrop, schemeName?_separator h, hscheme]
  rfl

/-- A text that is all key has no pair, and the key is shown. -/
theorem readKeyValue_of_isKeyChar {cs : List Char} (hne : cs ≠ [])
    (hkey : ∀ c ∈ cs, isKeyChar c = true) :
    KeyValue.read cs = .error (.invalidDescriptor
      ("expected key=value pair near " ++ quoted (String.ofList cs))) := by
  have hstart : trimStart cs = cs := by
    apply trimStart_eq_self
    intro c hc
    exact (isKeyChar_iff.1 (hkey c (List.mem_of_mem_head? hc))).2
  have hcut := span_run hkey (show ∀ c ∈ [].head?, isKeyChar c = false by simp)
  rw [List.append_nil] at hcut
  have hpair : readPair cs = .error (.invalidDescriptor
      ("expected key=value pair near " ++ quoted (String.ofList cs))) := by
    dsimp only [readPair]
    rw [hcut.1, hcut.2]
    split
    · rename_i hequals
      simp [trimStart] at hequals
    · rfl
  rw [KeyValue.read, readPairs_eq_error (by rwa [hstart]) (by rwa [hstart])]
  rfl

/-! ## Messages -/

/-- The message tells what stood in the place of a pair, to the last character. -/
theorem eq_of_message_near {s s' : String}
    (h : (Fault.invalidDescriptor ("expected key=value pair near " ++ quoted s)).message =
      (Fault.invalidDescriptor ("expected key=value pair near " ++ quoted s')).message) :
    s = s' := by
  have hquoted := (String.append_right_inj _).1 ((String.append_right_inj _).1 h)
  exact quoted_injective hquoted

section Messages

variable {start : String} (hkey : ∀ c ∈ start.toList, isKeyChar c = true)

include hkey

/-- The start of the text and the separator have no blank at either end, so they are kept. -/
theorem read_separator (tail : String) :
    read (start ++ "://" ++ tail) =
      readTrimmed (start.toList ++ (separator ++ trimEnd tail.toList)) := by
  have hchars : (start ++ "://" ++ tail).toList =
      (start.toList ++ separator) ++ tail.toList := by
    simp [String.toList_append, separator]
  have hfront : ∀ c ∈ start.toList ++ separator, isBlank c = false := by
    intro c hc
    obtain hc | hc := List.mem_append.1 hc
    · exact (isKeyChar_iff.1 (hkey c hc)).2
    · exact (isKeyChar_iff.1 (isKeyChar_of_mem_separator c hc)).2
  have htrim := trim_append (by simp [separator])
    (fun c hc => hfront c (List.mem_of_mem_head? hc))
    (fun c hc => hfront c (List.mem_of_mem_getLast? hc)) tail.toList
  rw [Descriptor.read, hchars, htrim, List.append_assoc]
  cases hcs : start.toList ++ (separator ++ trimEnd tail.toList) with
  | nil => simp [separator] at hcs
  | cons c cs => rfl

variable (hstart : ¬separator <:+: start.toList)

include hstart

/-- The whole text is shown when no scheme starts it and the tail can stand in a key. -/
theorem read_of_not_isSchemeName (hscheme : isSchemeName start.toList = false) {tail : String}
    (htail : ∀ c ∈ tail.toList, isKeyChar c = true) :
    read (start ++ "://" ++ tail) = .error (.invalidDescriptor
      ("expected key=value pair near " ++ quoted (start ++ "://" ++ tail))) := by
  have hend : trimEnd tail.toList = tail.toList :=
    trimEnd_eq_self fun c hc => (isKeyChar_iff.1 (htail c (List.mem_of_mem_getLast? hc))).2
  have hchars : start.toList ++ (separator ++ tail.toList) = (start ++ "://" ++ tail).toList := by
    simp [String.toList_append, separator]
  -- Start, separator and tail are all characters of a key, so the message quotes them whole.
  have hall : ∀ c ∈ start.toList ++ (separator ++ tail.toList), isKeyChar c = true := by
    intro c hc
    rw [List.mem_append, List.mem_append] at hc
    obtain hc | hc | hc := hc
    · exact hkey c hc
    · exact isKeyChar_of_mem_separator c hc
    · exact htail c hc
  rw [read_separator hkey, hend, readTrimmed_of_not_isSchemeName hstart hscheme,
    readKeyValue_of_isKeyChar (by simp [separator]) hall, hchars, String.ofList_toList]
  rfl

/-- **What is refused is shown unless a scheme starts it.**  Of two texts with the same characters
before the separator the refusals have the same message, whatever follows it, exactly when these
characters form a scheme. -/
theorem message_hides_tail_iff :
    (∀ (tail tail' : String) (fault fault' : Fault),
      read (start ++ "://" ++ tail) = .error fault →
      read (start ++ "://" ++ tail') = .error fault' →
        fault.message = fault'.message) ↔
      isSchemeName start.toList = true := by
  constructor
  · intro hides
    by_contra hscheme
    rw [Bool.not_eq_true] at hscheme
    have hmessage := hides "" "x" _ _
      (read_of_not_isSchemeName hkey hstart hscheme (List.all_eq_true.1 (by decide +kernel)))
      (read_of_not_isSchemeName hkey hstart hscheme (List.all_eq_true.1 (by decide +kernel)))
    have htails := (String.append_right_inj _).1 (eq_of_message_near hmessage)
    exact absurd htails (by decide +kernel)
  · intro hscheme tail tail' fault fault' hread hread'
    rw [read_separator hkey] at hread hread'
    rw [fault_of_isSchemeName hstart hscheme hread, fault_of_isSchemeName hstart hscheme hread']

end Messages

/-- A scheme that is not supported, and a word that looks like one but is none. -/
theorem message_hides_tail_iff_sql :
    (∀ (tail tail' : String) (fault fault' : Fault),
      read ("mysql" ++ "://" ++ tail) = .error fault →
        read ("mysql" ++ "://" ++ tail') = .error fault' → fault.message = fault'.message) ∧
    ¬∀ (tail tail' : String) (fault fault' : Fault),
      read ("my_sql" ++ "://" ++ tail) = .error fault →
        read ("my_sql" ++ "://" ++ tail') = .error fault' → fault.message = fault'.message := by
  have hmysql : ∀ c ∈ "mysql".toList, isKeyChar c = true :=
    List.all_eq_true.1 (by decide +kernel)
  have hword : ∀ c ∈ "my_sql".toList, isKeyChar c = true := List.all_eq_true.1 (by decide +kernel)
  constructor
  · exact (message_hides_tail_iff hmysql (by decide +kernel)).2 (by decide +kernel)
  · intro hides
    have hscheme := (message_hides_tail_iff hword (by decide +kernel)).1 hides
    exact absurd hscheme (by decide +kernel)

/-- The word before the separator is no scheme, since it has an underscore, and the refusal shows
user, password and host. -/
theorem message_shows_password :
    (∀ c ∈ "my_sql".toList, isKeyChar c = true) ∧ ¬separator <:+: "my_sql".toList ∧
      ∃ fault fault', read ("my_sql" ++ "://" ++ "u:hunter2@h") = .error fault ∧
        read ("my_sql" ++ "://" ++ "u:other@h") = .error fault' ∧
        fault.message = "invalid connection descriptor: " ++
          "expected key=value pair near \"my_sql://u:hunter2@h\"" ∧
        fault.message ≠ fault'.message := by
  have hkey : ∀ c ∈ "my_sql".toList, isKeyChar c = true := List.all_eq_true.1 (by decide +kernel)
  have hstart : ¬separator <:+: "my_sql".toList := by decide +kernel
  have hscheme : isSchemeName "my_sql".toList = false := by decide +kernel
  have htail : ∀ c ∈ "u:hunter2@h".toList, isKeyChar c = true :=
    List.all_eq_true.1 (by decide +kernel)
  have htail' : ∀ c ∈ "u:other@h".toList, isKeyChar c = true :=
    List.all_eq_true.1 (by decide +kernel)
  have hread := read_of_not_isSchemeName hkey hstart hscheme htail
  have hread' := read_of_not_isSchemeName hkey hstart hscheme htail'
  refine ⟨hkey, hstart, _, _, hread, hread', by decide +kernel, fun hmessage => ?_⟩
  exact absurd (eq_of_message_near hmessage) (by decide +kernel)

end PgVitals.Descriptor

import Mathlib.Data.List.Basic
import PgVitals.Proofs.Descriptor.Form
import PgVitals.Proofs.Descriptor.Percent

/-!
# Descriptors in URI form are read from their own text

The first question mark and the first slash before it say where the parts of a URI end.  Reading
finds an authority without either, a path without a question mark, and no blank at the end; what is
written for such parts is read as the same parts.  An encoded database name is such a path, so
pointing a descriptor at a database changes the path and nothing else, and the name is decoded from
the new path.
-/

namespace PgVitals.Uri

open Text

/-- What is written behind the path. -/
def tail (u : Uri) : List Char :=
  match u.query with
  | some query => '?' :: query.toList
  | none => []

/-- The parts of a URI as reading finds them in a text. -/
structure IsWritten (u : Uri) : Prop where
  question_authority : '?' ∉ u.authority.toList
  slash_authority : '/' ∉ u.authority.toList
  question_path : '?' ∉ u.path.toList
  isBlank_last : ∀ c ∈ (u.path.toList ++ u.tail).getLast?, isBlank c = false

theorem toList_text (u : Uri) :
    u.text.toList =
      u.scheme.text.toList ++ (u.authority.toList ++ '/' :: (u.path.toList ++ u.tail)) := by
  have hslash : ("/" : String).toList = ['/'] := by decide +kernel
  have hquestion : ("?" : String).toList = ['?'] := by decide +kernel
  rw [text, tail]
  cases u.query <;>
    simp only [String.toList_append, hslash, hquestion, String.toList_empty, List.append_assoc,
      List.cons_append, List.nil_append]

/-! ## Reading -/

theorem cutOrAll_spec (sep : Char) (cs : List Char) :
    sep ∉ (cutOrAll sep cs).1 ∧
      (cs = (cutOrAll sep cs).1 ++ sep :: (cutOrAll sep cs).2 ∨
        cs = (cutOrAll sep cs).1 ∧ (cutOrAll sep cs).2 = []) := by
  rw [cutOrAll]
  cases hcut : cutAt? sep cs with
  | none => exact ⟨cutAt?_eq_none_iff.1 hcut, Or.inr ⟨rfl, rfl⟩⟩
  | some parts =>
    obtain ⟨hparts, hfree⟩ := cutAt?_eq_some_iff.1 hcut
    exact ⟨hfree, Or.inl hparts⟩

/-- Reading cuts the text before the first question mark, and what stands before it at the first
slash. -/
theorem read_parts (scheme : Scheme) (cs : List Char) :
    ∃ front, '?' ∉ front ∧ cs = front ++ (read scheme cs).tail ∧
      (read scheme cs).scheme = scheme ∧
      (read scheme cs).authority.toList = (cutOrAll '/' front).1 ∧
      (read scheme cs).path.toList = (cutOrAll '/' front).2 := by
  rw [read, tail]
  cases hcut : cutAt? '?' cs with
  | none =>
    exact ⟨cs, cutAt?_eq_none_iff.1 hcut, (List.append_nil cs).symm, rfl, String.toList_ofList,
      String.toList_ofList⟩
  | some parts =>
    obtain ⟨front, query⟩ := parts
    obtain ⟨hparts, hfree⟩ := cutAt?_eq_some_iff.1 hcut
    refine ⟨front, hfree, ?_, rfl, String.toList_ofList, String.toList_ofList⟩
    simp only [String.toList_ofList]
    exact hparts

/-- The parts that reading finds in a text whose last character is no blank. -/
theorem isWritten_read (scheme : Scheme) {cs : List Char}
    (h : ∀ c ∈ cs.getLast?, isBlank c = false) : (read scheme cs).IsWritten := by
  obtain ⟨front, hfront, hcs, -, hauthority, hpath⟩ := read_parts scheme cs
  obtain ⟨hslash, hcut⟩ := cutOrAll_spec '/' front
  rw [← hauthority] at hslash hcut
  rw [← hpath] at hcut
  have hmem : ∀ c, c ∈ (read scheme cs).authority.toList ∨ c ∈ (read scheme cs).path.toList →
      c ∈ front := by
    intro c hc
    obtain hfull | ⟨hall, hnil⟩ := hcut
    · rw [hfull, List.mem_append, List.mem_cons]
      exact hc.imp_right Or.inr
    · rw [hnil] at hc
      rw [hall]
      exact hc.resolve_right List.not_mem_nil
  have hsuffix : (read scheme cs).path.toList ++ (read scheme cs).tail <:+ cs := by
    obtain hfull | ⟨-, hnil⟩ := hcut
    · refine ⟨(read scheme cs).authority.toList ++ ['/'], ?_⟩
      calc
        _ = front ++ (read scheme cs).tail := by
          rw [hfull]
          simp only [List.append_assoc, List.cons_append, List.nil_append]
        _ = cs := hcs.symm
    · rw [hnil, List.nil_append]
      exact ⟨front, hcs.symm⟩
  refine ⟨fun hc => hfront (hmem _ (Or.inl hc)), hslash, fun hc => hfront (hmem _ (Or.inr hc)), ?_⟩
  intro c hc
  obtain ⟨before, hbefore⟩ := hsuffix
  exact h c (hbefore ▸ List.mem_getLast?_append_of_mem_getLast? hc)

/-- The parts are found again where they were written. -/
theorem read_append {u : Uri} (h : u.IsWritten) :
    read u.scheme (u.authority.toList ++ '/' :: (u.path.toList ++ u.tail)) = u := by
  have hfront : '?' ∉ u.authority.toList ++ '/' :: u.path.toList := by
    rw [List.mem_append, List.mem_cons, not_or, not_or]
    exact ⟨h.question_authority, by decide, h.question_path⟩
  have hslash : cutOrAll '/' (u.authority.toList ++ '/' :: u.path.toList) =
      (u.authority.toList, u.path.toList) := by
    rw [cutOrAll, cutAt?_eq_some_iff.2 ⟨rfl, h.slash_authority⟩]
    rfl
  have hassoc : u.authority.toList ++ '/' :: (u.path.toList ++ u.tail) =
      (u.authority.toList ++ '/' :: u.path.toList) ++ u.tail := by
    rw [List.append_assoc, List.cons_append]
  obtain ⟨scheme, authority, path, query⟩ := u
  rw [hassoc, read, tail]
  cases query with
  | none =>
    rw [List.append_nil, cutAt?_eq_none_iff.2 hfront]
    simp only [hslash, String.ofList_toList]
  | some query =>
    rw [cutAt?_eq_some_iff.2 ⟨rfl, hfront⟩]
    simp only [hslash, String.ofList_toList]

/-! ## Descriptors -/

theorem readTrimmed_scheme (scheme : Scheme) (rest : List Char) :
    Descriptor.readTrimmed (scheme.text.toList ++ rest) = .ok (.uri (read scheme rest)) := by
  rw [Descriptor.readTrimmed]
  cases scheme with
  | postgres => rw [dropStart?_eq_some_iff.2 rfl]
  | postgresql =>
    -- The long scheme goes on where the short one has its colon.
    have hshort : dropStart? Scheme.postgres.text.toList
        (Scheme.postgresql.text.toList ++ rest) = none := rfl
    rw [hshort, dropStart?_eq_some_iff.2 rfl]

theorem readTrimmed_eq_uri {cs : List Char} {u : Uri}
    (h : Descriptor.readTrimmed cs = .ok (.uri u)) :
    ∃ scheme rest, cs = scheme.text.toList ++ rest ∧ u = read scheme rest := by
  obtain ⟨scheme, rest, hcs, huri⟩ | ⟨_, -, hname⟩ | ⟨-, hpairs⟩ :=
    Descriptor.readTrimmed_cases cs
  · exact ⟨scheme, rest, hcs, by simpa [eq_comm] using huri.symm.trans h⟩
  · simp [hname] at h
  · rw [hpairs] at h
    cases hfound : KeyValue.read cs <;> simp [hfound, Except.map] at h

/-- The parts of a descriptor that was read are in written form. -/
theorem isWritten_of_read {s : String} {u : Uri} (h : Descriptor.read s = .ok (.uri u)) :
    u.IsWritten := by
  obtain ⟨-, hread⟩ := Descriptor.read_eq_ok_iff.1 h
  obtain ⟨scheme, rest, hcs, rfl⟩ := readTrimmed_eq_uri hread
  refine isWritten_read scheme fun c hc => ?_
  have hlast : c ∈ (trim s.toList).getLast? :=
    hcs ▸ List.mem_getLast?_append_of_mem_getLast? hc
  exact isBlank_of_mem_getLast?_trim hlast

/-- **A URI in written form is read from its own text.** -/
theorem read_text {u : Uri} (h : u.IsWritten) : Descriptor.read u.text = .ok (.uri u) := by
  have htrim : trim u.text.toList = u.text.toList := by
    rw [toList_text]
    -- The text starts with the `p` of its scheme, and its last character is the `/` of the path or
    -- one that `h` says is not blank.
    refine trim_eq_self (fun c hc => ?_) (fun c hc => ?_)
    · obtain ⟨letters, hletters⟩ : ∃ letters, u.scheme.text.toList = 'p' :: letters := by
        cases u.scheme <;> exact ⟨_, rfl⟩
      rw [hletters] at hc
      obtain rfl : 'p' = c := by simpa using hc
      decide
    · rw [List.getLast?_append, List.getLast?_append, List.getLast?_cons] at hc
      cases hlast : (u.path.toList ++ u.tail).getLast? with
      | none =>
        rw [hlast] at hc
        obtain rfl : '/' = c := by simpa using hc
        decide
      | some last =>
        rw [hlast] at hc
        obtain rfl : last = c := by simpa using hc
        exact h.isBlank_last last hlast
  rw [Descriptor.read_eq_ok_iff, htrim, toList_text, readTrimmed_scheme, read_append h]
  exact ⟨by simp, rfl⟩

/-! ## Another database -/

theorem isWritten_retarget {u : Uri} (h : u.IsWritten) (database : String) :
    (u.retarget database).IsWritten := by
  refine ⟨h.question_authority, h.slash_authority, ?_, fun c hc => ?_⟩
  · exact fun hc => (Percent.encode_safe hc).2.1 rfl
  · rw [List.getLast?_append] at hc
    cases hlast : (u.retarget database).tail.getLast? with
    | none =>
      rw [hlast, Option.none_or] at hc
      exact (Percent.encode_safe (List.mem_of_getLast? hc)).2.2.2
    | some last =>
      rw [hlast] at hc
      obtain rfl : last = c := by simpa using hc
      exact h.isBlank_last last (List.mem_getLast?_append_of_mem_getLast? hlast)

theorem database?_retarget (u : Uri) {database : String} (h : database ≠ "") :
    (u.retarget database).database? = some database := by
  have hpath : ¬(Percent.encode database).isEmpty = true := by
    rw [String.isEmpty_iff]
    exact Percent.encode_ne_empty h
  rw [retarget, database?, if_neg hpath, Percent.decode_encode]

/-- Pointed at different databases, a URI has different texts. -/
theorem text_retarget_injective (u : Uri) :
    Function.Injective fun database => (u.retarget database).text := by
  intro a b h
  have hparts : (u.scheme.text ++ u.authority ++ "/") ++ Percent.encode a =
      (u.scheme.text ++ u.authority ++ "/") ++ Percent.encode b :=
    (String.append_left_inj _).1 h
  exact Percent.encode_injective ((String.append_right_inj _).1 hparts)

/-- **Pointing the text of a URI at a database.**  For every text that is read as a URI and every
name that is not empty, the text that comes out is read as a URI that names this database and has
the scheme, the authority and the parameters that it had. -/
theorem retargetText_keeps_parts {s : String} {u : Uri} (h : Descriptor.read s = .ok (.uri u))
    {database : String} (hname : database ≠ "") :
    ∃ text u', Descriptor.retargetText s database = .ok text ∧
      Descriptor.read text = .ok (.uri u') ∧ u'.scheme = u.scheme ∧
      u'.authority = u.authority ∧ u'.query = u.query ∧
      Descriptor.database? (.uri u') = some database := by
  have htext : Descriptor.retargetText s database = .ok (u.retarget database).text := by
    rw [Descriptor.retargetText, h]
    rfl
  have hwritten : (u.retarget database).IsWritten :=
    isWritten_retarget (isWritten_of_read h) database
  exact ⟨_, u.retarget database, htext, read_text hwritten, rfl, rfl, rfl,
    database?_retarget u hname⟩

/-- A URI with a password, a path and parameters, pointed at a database whose name has separators,
a percent sign and characters of two and four bytes. -/
theorem retargetText_keeps_parts_separators :
    Descriptor.read " postgres://u:p@h:5432/o/q?a=b/c?d " =
        .ok (.uri ⟨.postgres, "u:p@h:5432", "o/q", some "a=b/c?d"⟩) ∧
      "é/?%#@ 𝄞" ≠ "" ∧
      ∃ text u',
        Descriptor.retargetText " postgres://u:p@h:5432/o/q?a=b/c?d " "é/?%#@ 𝄞" = .ok text ∧
        Descriptor.read text = .ok (.uri u') ∧ u'.scheme = .postgres ∧
        u'.authority = "u:p@h:5432" ∧ u'.query = some "a=b/c?d" ∧
        Descriptor.database? (.uri u') = some "é/?%#@ 𝄞" := by
  have hread : Descriptor.read " postgres://u:p@h:5432/o/q?a=b/c?d " =
      .ok (.uri ⟨.postgres, "u:p@h:5432", "o/q", some "a=b/c?d"⟩) := by decide +kernel
  have hname : "é/?%#@ 𝄞" ≠ "" := by decide +kernel
  exact ⟨hread, hname, retargetText_keeps_parts hread hname⟩

end PgVitals.Uri

import PgVitals.Daemon
import PgVitals.Proofs.FileTree
import PgVitals.Proofs.Text.Cut

/-!
# Replacing a file does not damage it

The output is written to a temporary file beside its place and moved there.  The temporary file
never stands where the file stands, so what is done to it leaves the file alone: up to the move the
file holds what it held before, and the move puts the new output there at once.  A replacement that
fails has changed nothing but the temporary file, and a round publishes either the rendering of its
own samples or nothing.
-/

namespace PgVitals.Publication

open FileTree

variable {σ τ : Type} {files : FileTree} {path content : String}

/-! ## The temporary file -/

/-- A name with the ending is longer than the name. -/
theorem append_tmp_ne {name other : String} (h : other.length < name.length + 4) :
    name ++ ".tmp" ≠ other := by
  intro heq
  have hlength : (name ++ ".tmp").length = name.length + 4 := String.length_append ..
  rw [heq] at hlength
  omega

/-- The temporary file stands in the folder named by all but the last part of the path, under the
last part with an ending; that part may be empty or a point and then is no name of the path. -/
theorem written_temporary (path : String) :
    ∃ folder last,
      ((written path).names = folder ++ [last] ∨ (written path).names = folder) ∧
        written (temporary path) = ⟨folder ++ [last ++ ".tmp"], false, false⟩ := by
  -- The ending has no slash, so that it only lengthens the last part of the path.
  obtain ⟨front, last, hparts, hlonger⟩ :=
    @Text.splitOn_append '/' ".tmp".toList (by decide) path.toList
  have hending : String.ofList (last ++ ".tmp".toList) = String.ofList last ++ ".tmp" := by
    rw [String.ofList_append, String.ofList_toList]
  have hsome : String.ofList last ++ ".tmp" ≠ "" := append_tmp_ne (Nat.succ_pos _)
  have hname : String.ofList last ++ ".tmp" ≠ "." :=
    append_tmp_ne (show 1 < (String.ofList last).length + 4 by omega)
  refine ⟨((front.map String.ofList).filter (!·.isEmpty)).filter (· ≠ "."), String.ofList last,
    ?_, ?_⟩
  · simp only [written, hparts, List.map_append, List.map_cons, List.map_nil, List.filter_append]
    by_cases hempty : String.ofList last = ""
    · simp [hempty]
    · by_cases hpoint : String.ofList last = "."
      · simp [hpoint]
      · simp [hempty, hpoint]
  · simp only [written, temporary, String.toList_append, hlonger, List.map_append, List.map_cons,
      List.map_nil, hending, List.filter_append]
    simp [hname, hsome]

/-- The temporary file never stands where the file stands: it is another name of the same directory,
or, when the last part of the path is no name, one in the directory that the path leads to. -/
theorem not_leadsTo_of_temporary {place : List String} (h : files.LeadsTo (temporary path) place) :
    ¬files.LeadsTo path place := by
  rintro ⟨slash, hlocate⟩
  obtain ⟨slash', htemporary⟩ := h
  obtain ⟨folder, last, hnames, hwritten⟩ := written_temporary path
  have hup : last ++ ".tmp" ≠ ".." := append_tmp_ne (show 2 < last.length + 4 by omega)
  have hbeside := (locate_eq_ok_iff.1 htemporary).2.2
  rw [finds_iff_of_name (congrArg Written.names hwritten) (congrArg Written.point hwritten) hup]
    at hbeside
  obtain ⟨-, dir, hfolder, hplace⟩ := hbeside
  have hfinds := (locate_eq_ok_iff.1 hlocate).2.2
  generalize hentry : Place.entry place slash = entry at hfinds
  cases hfinds with
  | root _ => cases hentry
  | directory _ _ _ => cases hentry
  | @entry front name dir' hpath hpoint hname hshort hwalk =>
    obtain ⟨rfl, -⟩ := Place.entry.inj hentry
    obtain ⟨rfl, hlast⟩ := List.append_inj' (Place.entry.inj hplace).1 rfl
    obtain rfl : name = last ++ ".tmp" := by simpa using hlast
    rcases hnames with hnames | hnames
    · -- Both paths would end in one name, and one name is the other with `.tmp` behind it.
      obtain ⟨-, hsame⟩ := List.append_inj' (hnames.symm.trans hpath) rfl
      have hshorter : last ++ ".tmp" = last := by simpa using hsame.symm
      exact append_tmp_ne (by omega) hshorter
    · -- The path ends in a directory, which a walk reaches by one step more.
      rw [← hnames, hpath, walk_append_eq_ok_iff] at hfolder
      obtain ⟨between, hfront, hstep⟩ := hfolder
      obtain rfl : between = dir' := Except.ok.inj (hfront.symm.trans hwalk)
      rw [walk_cons_eq_ok_iff, if_neg hname] at hstep
      have hlonger : between ++ [last ++ ".tmp"] = between := Except.ok.inj hstep.2.2
      simp at hlonger

/-! ## What is left behind -/

/-- The path holds the content, the temporary file is gone, and the rest is as it was. -/
structure Replaced (before : FileTree) (path content : String) (after : FileTree) : Prop where
  at?_path : after.at? path = some (.file content)
  at?_temporary : after.at? (temporary path) = none
  node?_eq : ∀ names, ¬before.LeadsTo path names → ¬before.LeadsTo (temporary path) names →
    after.node? names = before.node? names

/-- All but the temporary file is as it was, the path included, and if there was no temporary file
the whole tree is. -/
structure Kept (before : FileTree) (path : String) (after : FileTree) : Prop where
  at?_path : after.at? path = before.at? path
  node?_eq : ∀ names, ¬before.LeadsTo (temporary path) names →
    after.node? names = before.node? names
  eq_of_none : before.at? (temporary path) = none → after = before

theorem kept_refl (files : FileTree) (path : String) : Kept files path files where
  at?_path := rfl
  node?_eq _ _ := rfl
  eq_of_none _ := rfl

section Beside

variable {place : List String} (hplace : files.locate (temporary path) = .ok (.entry place false))
  (hnode : files.node? place ≠ some .directory)

include hplace hnode

/-- The temporary file is there once it is written, and every path leads to where it led. -/
theorem put_beside (content : String) :
    (files.put place (.file content)).SameDirectories files ∧
      (files.put place (.file content)).node? place = some (.file content) := by
  have hne := LeadsTo.ne_nil ⟨false, hplace⟩
  refine ⟨sameDirectories_put hne hnode content, ?_⟩
  rw [node?_put hne, if_pos rfl]

/-- What happens at the place of the temporary file leaves the path alone. -/
theorem at?_of_beside {after : FileTree} (hsame : after.SameDirectories files)
    (hothers : ∀ names ≠ place, after.node? names = files.node? names) :
    after.at? path = files.at? path := by
  refine at?_congr hsame fun names hleads => hothers names ?_
  rintro rfl
  exact not_leadsTo_of_temporary ⟨false, hplace⟩ (hleads.congr hsame)

theorem at?_put_beside (content : String) :
    (files.put place (.file content)).at? path = files.at? path := by
  refine at?_of_beside hplace hnode (put_beside hplace hnode content).1 fun names hnames => ?_
  rw [node?_put (LeadsTo.ne_nil ⟨false, hplace⟩), if_neg hnames]

theorem kept_erase : Kept files path (files.erase place) := by
  have hne := LeadsTo.ne_nil ⟨false, hplace⟩
  have hothers : ∀ names ≠ place, (files.erase place).node? names = files.node? names := by
    intro names hnames
    rw [node?_erase hne, if_neg hnames]
  refine ⟨at?_of_beside hplace hnode (sameDirectories_erase hne hnode) hothers, ?_, ?_⟩
  · intro names hnames
    refine hothers names ?_
    rintro rfl
    exact hnames ⟨false, hplace⟩
  · intro hnone
    rw [at?_of_locate_file hplace] at hnone
    exact erase_of_none hne hnone

theorem replaced_put {target : List String}
    (htarget : files.locate path = .ok (.entry target false))
    (hfree : files.node? target ≠ some .directory) (content : String) :
    Replaced files path content ((files.erase place).put target (.file content)) := by
  have hne := LeadsTo.ne_nil ⟨false, hplace⟩
  have hne' := LeadsTo.ne_nil ⟨false, htarget⟩
  have hapart : place ≠ target := by
    rintro rfl
    exact not_leadsTo_of_temporary ⟨false, hplace⟩ ⟨false, htarget⟩
  have hfree' : (files.erase place).node? target ≠ some .directory := by
    rwa [node?_erase hne, if_neg hapart.symm]
  -- Files come and go, directories do not, so every path leads to where it led.
  have hsame : ((files.erase place).put target (.file content)).SameDirectories files :=
    SameDirectories.trans (sameDirectories_put hne' hfree' content)
      (sameDirectories_erase hne hnode)
  refine ⟨?_, ?_, ?_⟩
  · rw [at?_of_locate_file ((locate_congr hsame).2 htarget), node?_put hne', if_pos rfl]
  · rw [at?_of_locate_file ((locate_congr hsame).2 hplace), node?_put hne', if_neg hapart,
      node?_erase hne, if_pos rfl]
  · intro names hpath htemporary
    have hnames : names ≠ target := by
      rintro rfl
      exact hpath ⟨false, htarget⟩
    have hnames' : names ≠ place := by
      rintro rfl
      exact htemporary ⟨false, hplace⟩
    rw [node?_put hne', if_neg hnames, node?_erase hne, if_neg hnames']

end Beside

/-! ## Operations in order -/

/-- The trees in which a program asks for its operations: the first one, and those between two
operations. -/
def Program.stages : Program FileFault → FileTree → List FileTree
  | done _, _ => []
  | ask operation next, files =>
    files ::
      match operation.perform files with
      | .ok after => (next (.ok ())).stages after
      | .error fault => (next (.error fault)).stages files

open Program

/-- **Every course a replacement can take.**  The temporary file is refused; or it is written, and
then either the move is refused and it is removed again, or it takes its place. -/
theorem replacing_cases (files : FileTree) (path content : String) :
    (∃ fault, (replacing path content).run files = (.error fault, files) ∧
      (replacing path content).stages files = [files]) ∨
    ∃ place, files.locate (temporary path) = .ok (.entry place false) ∧
      files.node? place ≠ some .directory ∧
      ((∃ fault, (replacing path content).run files = (.error fault, files.erase place) ∧
        (replacing path content).stages files =
          [files, files.put place (.file content), files.put place (.file content)]) ∨
      ∃ target, files.locate path = .ok (.entry target false) ∧
        files.node? target ≠ some .directory ∧
          (replacing path content).run files =
            (.ok (), (files.erase place).put target (.file content)) ∧
            (replacing path content).stages files =
              [files, files.put place (.file content)]) := by
  cases hwrite : files.write (temporary path) content with
  | error fault =>
    refine .inl ⟨fault, ?_⟩
    simp only [replacing, run, stages, Operation.perform, hwrite, and_self]
  | ok written =>
    obtain ⟨place, hplace, hnode, rfl⟩ := write_eq_ok_iff.1 hwrite
    obtain ⟨hsame, hheld⟩ := put_beside hplace hnode content
    have hthere := (locate_congr hsame).2 hplace
    refine .inr ⟨place, hplace, hnode, ?_⟩
    cases hmove : (files.put place (.file content)).move (temporary path) path with
    | ok after =>
      obtain ⟨origin, target, moved, horigin, htarget, hmoved, hfree, rfl⟩ := move_eq_ok_iff.1 hmove
      rw [hthere] at horigin
      cases horigin
      rw [hheld] at hmoved
      cases hmoved
      refine .inr ⟨target, (locate_congr hsame).1 htarget, mt (hsame target).2 hfree, ?_⟩
      simp only [replacing, run, stages, Operation.perform, hwrite, hmove, erase_put, and_self]
    | error fault =>
      have hremove := remove_eq_ok_iff.2
        ⟨place, content, hthere, hheld, (erase_put place (.file content)).symm⟩
      refine .inl ⟨fault, ?_⟩
      simp only [replacing, run, stages, Operation.perform, hwrite, hmove, hremove, and_self]

/-- Whatever a replacement comes to, up to its end the path holds what it held. -/
theorem at?_of_mem_stages {stage : FileTree}
    (h : stage ∈ (replacing path content).stages files) : stage.at? path = files.at? path := by
  obtain ⟨-, -, hstages⟩ | ⟨place, hplace, hnode, hcourse⟩ := replacing_cases files path content
  · rw [hstages, List.mem_singleton] at h
    rw [h]
  · have hwritten := at?_put_beside hplace hnode content
    have hstage : stage = files ∨ stage = files.put place (.file content) := by
      obtain ⟨-, -, hstages⟩ | ⟨-, -, -, -, hstages⟩ := hcourse
      · simpa [hstages] using h
      · simpa [hstages] using h
    rcases hstage with rfl | rfl
    · rfl
    · exact hwritten

theorem replaced_of_ok (h : (replace files path content).1 = .ok ()) :
    Replaced files path content (replace files path content).2 := by
  rw [replace] at h ⊢
  obtain ⟨fault, hrun, -⟩ | ⟨place, hplace, hnode, hcourse⟩ := replacing_cases files path content
  · rw [hrun] at h
    cases h
  · obtain ⟨fault, hrun, -⟩ | ⟨target, htarget, hfree, hrun, -⟩ := hcourse
    · rw [hrun] at h
      cases h
    · rw [hrun]
      exact replaced_put hplace hnode htarget hfree content

theorem kept_of_not_ok (h : (replace files path content).1 ≠ .ok ()) :
    Kept files path (replace files path content).2 := by
  rw [replace] at h ⊢
  obtain ⟨fault, hrun, -⟩ | ⟨place, hplace, hnode, hcourse⟩ := replacing_cases files path content
  · rw [hrun]
    exact kept_refl files path
  · obtain ⟨fault, hrun, -⟩ | ⟨target, htarget, hfree, hrun, -⟩ := hcourse
    · rw [hrun]
      exact kept_erase hplace hnode
    · rw [hrun] at h
      exact absurd rfl h

/-- A file can be put where the path leads to, and where its temporary file belongs. -/
def Replaceable (files : FileTree) (path : String) : Prop :=
  ∃ place target,
    (files.locate (temporary path) = .ok (.entry place false) ∧
      files.node? place ≠ some .directory) ∧
    files.locate path = .ok (.entry target false) ∧ files.node? target ≠ some .directory

/-- A file is replaced whenever that is possible. -/
theorem replace_eq_ok_iff : (replace files path content).1 = .ok () ↔ Replaceable files path := by
  constructor
  · intro h
    rw [replace] at h
    obtain ⟨fault, hrun, -⟩ | ⟨place, hplace, hnode, hcourse⟩ := replacing_cases files path content
    · rw [hrun] at h
      cases h
    · obtain ⟨fault, hrun, -⟩ | ⟨target, htarget, hfree, -, -⟩ := hcourse
      · rw [hrun] at h
        cases h
      · exact ⟨place, target, ⟨hplace, hnode⟩, htarget, hfree⟩
  · rintro ⟨place, target, ⟨hplace, hnode⟩, htarget, hfree⟩
    obtain ⟨hsame, hheld⟩ := put_beside hplace hnode content
    have hwrite : files.write (temporary path) content = .ok (files.put place (.file content)) :=
      write_eq_ok_iff.2 ⟨place, hplace, hnode, rfl⟩
    have hmove := move_eq_ok_iff.2 ⟨place, target, content, (locate_congr hsame).2 hplace,
      (locate_congr hsame).2 htarget, hheld, mt (hsame target).1 hfree, rfl⟩
    simp only [replace, replacing, run, Operation.perform, hwrite, hmove]

/-! ## Rounds -/

/-- A round that succeeds has published the rendering of what its scrape gave; one that does not has
published nothing, or was refused. -/
theorem scrapeOnce_published (o : Options) (round : Nat) (seconds : Int) (scraper : Scraper σ τ)
    (ctx : ContextId) (scene : Scene σ) (before : Outlets) :
    let ended := Daemon.scrapeOnce o round seconds scraper ctx scene before
    ((scraper.scrape ctx scene).1.isDone = false ∧ ended.ok ≠ .done true ∧
        ended.outlets = before) ∨
      ∃ report samples after, scraper.scrape ctx scene = (.done report, samples, after) ∧
        let published := publish o.output (o.format.render samples seconds) before
        (ended.ok = .done true ↔ published.1 = .ok ()) ∧ ended.outlets = published.2 := by
  rcases hscrape : scraper.scrape ctx scene with ⟨outcome, samples, scraper', scene'⟩
  cases outcome with
  | done report =>
    refine .inr ⟨report, samples, (scraper', scene'), rfl, ?_⟩
    simp only [Daemon.scrapeOnce, Daemon.scrape, hscrape]
    rcases publish o.output (o.format.render samples seconds) before with ⟨_ | _, outlets⟩
    · simp
    · simp
  | failed fault =>
    refine .inl ?_
    simp [Daemon.scrapeOnce, Daemon.scrape, hscrape, Outcome.isDone]
  | crashed note =>
    refine .inl ?_
    simp [Daemon.scrapeOnce, Daemon.scrape, hscrape, Outcome.isDone]

/-- **Publishing never damages the file.**  The output replaces the file whole and leaves nothing
else behind, or is refused and leaves the file as it was, and the whole tree if there was no
temporary file; the operations this takes are those of `replacing`, and between them the file holds
what it held.  So a round, which succeeds just when its scrape does and the file can be replaced,
has then put the rendering of its own samples there, and else has left the file alone. -/
theorem publish_replaces_or_keeps (path : String) (before : Outlets) :
    (∀ content,
      let published := publish (some path) content before
      (replacing path content).run before.files = (published.1, published.2.files) ∧
        (∀ stage ∈ (replacing path content).stages before.files,
          stage.at? path = before.files.at? path) ∧
        (published.1 = .ok () ↔ Replaceable before.files path) ∧
        (published.1 = .ok () → Replaced before.files path content published.2.files) ∧
        (published.1 ≠ .ok () → Kept before.files path published.2.files) ∧
        published.2.standard = before.standard) ∧
      ∀ (o : Options) (round : Nat) (seconds : Int) (scraper : Scraper σ τ) (ctx : ContextId)
        (scene : Scene σ),
        let ended :=
          Daemon.scrapeOnce { o with output := some path } round seconds scraper ctx scene before
        (ended.ok = .done true ↔
          (scraper.scrape ctx scene).1.isDone = true ∧ Replaceable before.files path) ∧
        (ended.ok = .done true → ∃ report samples after,
          scraper.scrape ctx scene = (.done report, samples, after) ∧
            Replaced before.files path (o.format.render samples seconds) ended.outlets.files) ∧
        (ended.ok ≠ .done true → Kept before.files path ended.outlets.files) := by
  refine ⟨fun content => ⟨rfl, fun _ => at?_of_mem_stages, replace_eq_ok_iff, replaced_of_ok,
    kept_of_not_ok, rfl⟩, fun o round seconds scraper ctx scene => ?_⟩
  obtain ⟨hending, hnot, hkept⟩ | ⟨report, samples, after, hscrape, hok, houtlets⟩ :=
    scrapeOnce_published { o with output := some path } round seconds scraper ctx scene before
  · refine ⟨iff_of_false hnot ?_, fun h => absurd h hnot, fun _ => ?_⟩
    · rw [hending]
      exact fun h => absurd h.1 Bool.false_ne_true
    · rw [hkept]
      exact kept_refl before.files path
  · refine ⟨?_, fun h => ⟨report, samples, after, hscrape, ?_⟩, fun h => ?_⟩
    · rw [hok, hscrape]
      exact replace_eq_ok_iff.trans (and_iff_right rfl).symm
    · rw [houtlets]
      exact replaced_of_ok (hok.1 h)
    · rw [houtlets]
      exact kept_of_not_ok (mt hok.2 h)

-- A temporary file that was left behind does no harm, and does not stay.
example :
    publish (some "out/pg.prom") "fresh"
        { files := ⟨[(["out"], .directory), (["out", "pg.prom"], .file "stale"),
          (["out", "pg.prom.tmp"], .file "half")]⟩ } =
      (.ok (), { files := ⟨[(["out", "pg.prom"], .file "fresh"), (["out"], .directory)]⟩ }) := by
  decide +kernel

-- A directory is not replaced, and nothing stays beside it.
example :
    publish (some "out") "fresh" { files := ⟨[(["out"], .directory)]⟩ } =
      (.error .isADirectory, { files := ⟨[(["out"], .directory)]⟩ }) := by
  decide +kernel

end PgVitals.Publication

import PgVitals.Daemon
import PgVitals.Proofs.CommandLine.Reader
import PgVitals.Proofs.Server.Client
import PgVitals.Proofs.Target.Opening

/-!
# A run does not tell the password

The password of the environment is quoted, written into a descriptor, read from it again, masked in
the line on the options and handed to the client library.  Two environments that differ in it
therefore start the daemon with the same lines and with scrapers whose descriptors differ in a
password only.  When no server is reached nothing but the attempt to connect sees the descriptor,
and the attempt ends the same for both, so all that a run leaves behind is the same.
-/

namespace PgVitals

open KeyValue

variable {σ τ κ : Type}

/-! ## Environments -/

namespace Environment

/-- The environments name the same variables with the same values, but for the password, which is
given in both. -/
structure SameButPassword (env env' : Environment) : Prop where
  get?_eq : ∀ name ≠ "PGPASSWORD", env.get? name = env'.get? name
  password : ∃ value, env.get? "PGPASSWORD" = some value ∧ value ≠ ""
  password' : ∃ value, env'.get? "PGPASSWORD" = some value ∧ value ≠ ""

variable {env env' : Environment}

theorem sameButPassword_insert (env : Environment) {password password' : String}
    (hne : password ≠ "") (hne' : password' ≠ "") :
    SameButPassword (env.insert "PGPASSWORD" password) (env.insert "PGPASSWORD" password') where
  get?_eq := by
    intro name hname
    rw [Dictionary.get?_insert, Dictionary.get?_insert, if_neg hname, if_neg hname]
  password := ⟨password, by rw [Dictionary.get?_insert, if_pos rfl], hne⟩
  password' := ⟨password', by rw [Dictionary.get?_insert, if_pos rfl], hne'⟩

theorem descriptorPairs_of_password {password : String}
    (h : env.get? "PGPASSWORD" = some password) (hne : password ≠ "") (user : String) :
    env.descriptorPairs user =
      [("host", (env.get? "PGHOST").getD "localhost"), ("port", (env.get? "PGPORT").getD "5432"),
        ("user", user), (passwordKey, password),
        ("dbname", (env.get? "PGDATABASE").getD user)] := by
  have hempty : password.isEmpty = false := by simpa [String.isEmpty_iff] using hne
  simp [descriptorPairs, h, hempty, passwordKey]

theorem SameButPassword.descriptorPairs (h : env.SameButPassword env') (user : String) :
    SameButPasswords ⟨quotedPairs (env.descriptorPairs user)⟩
      ⟨quotedPairs (env'.descriptorPairs user)⟩ := by
  obtain ⟨password, hpassword, hne⟩ := h.password
  obtain ⟨password', hpassword', hne'⟩ := h.password'
  rw [ClientOptions.sameButPasswords_quotedPairs_iff, descriptorPairs_of_password hpassword hne,
    descriptorPairs_of_password hpassword' hne', h.get?_eq "PGHOST" (by decide),
    h.get?_eq "PGPORT" (by decide), h.get?_eq "PGDATABASE" (by decide)]
  simp

theorem descriptorText_of_user {user : String}
    (huser : (env.get? "PGUSER").or (env.get? "USER") = some user) :
    env.descriptorText = .ok (text ⟨quotedPairs (env.descriptorPairs user)⟩) ∧
      Descriptor.read (text ⟨quotedPairs (env.descriptorPairs user)⟩) =
        .ok (.keyValue ⟨quotedPairs (env.descriptorPairs user)⟩) := by
  constructor
  · rw [descriptorText, huser]
    rfl
  · exact read_text_quotedPairs (isKey_descriptorPairs env user) opensPairs_host

/-- Neither environment makes a descriptor, for the same reason, or both make one, and the two
differ in the password only. -/
theorem SameButPassword.descriptorText (h : env.SameButPassword env') :
    (∃ problem, env.descriptorText = .error problem ∧ env'.descriptorText = .error problem) ∨
      ∃ options options', env.descriptorText = .ok (text ⟨quotedPairs options⟩) ∧
        env'.descriptorText = .ok (text ⟨quotedPairs options'⟩) ∧
        Descriptor.read (text ⟨quotedPairs options⟩) = .ok (.keyValue ⟨quotedPairs options⟩) ∧
        Descriptor.read (text ⟨quotedPairs options'⟩) = .ok (.keyValue ⟨quotedPairs options'⟩) ∧
        SameButPasswords ⟨quotedPairs options⟩ ⟨quotedPairs options'⟩ := by
  have huser' : (env'.get? "PGUSER").or (env'.get? "USER") =
      (env.get? "PGUSER").or (env.get? "USER") := by
    rw [h.get?_eq "PGUSER" (by decide), h.get?_eq "USER" (by decide)]
  cases huser : (env.get? "PGUSER").or (env.get? "USER") with
  | none =>
    refine Or.inl ⟨"neither DATA_SOURCE_NAME, PGUSER nor USER is set", ?_, ?_⟩
    · rw [Environment.descriptorText, huser]
    · rw [Environment.descriptorText, huser', huser]
  | some user =>
    obtain ⟨htext, hread⟩ := descriptorText_of_user huser
    obtain ⟨htext', hread'⟩ := descriptorText_of_user (huser'.trans huser)
    exact Or.inr ⟨_, _, htext, htext', hread, hread', h.descriptorPairs user⟩

end Environment

/-! ## Rounds -/

/-- A scrape of a target for which no session can be opened gives nothing, and ends as the attempt
to open one. -/
theorem Scraper.scrape_of_refused {s : Scraper σ τ} {ctx : ContextId} {scene after : Scene σ}
    {ending : Outcome τ} (hending : ending.isDone = false)
    (h : s.template.connector.connect ctx s.template.descriptor.text scene = (ending, after)) :
    s.scrape ctx scene = (ending.map fun _ => ⟨[], 0⟩, [], s, after) := by
  rw [scrape, Target.openCopy_of_refused hending h]
  cases ending with
  | done session => cases hending
  | failed fault => rfl
  | crashed note => rfl

namespace Daemon

/-- What is left of a round that opened no session does not depend on the scraper. -/
theorem endAfter_scrapeOnce_congr {s s' : Scraper σ τ} {ctx : ContextId} {scene : Scene σ}
    (hrefused :
      (s.template.connector.connect ctx s.template.descriptor.text scene).1.isDone = false)
    (hsame : s.template.connector.connect ctx s.template.descriptor.text scene =
      s'.template.connector.connect ctx s'.template.descriptor.text scene)
    (o : Options) (before : List String) (round : Nat) (seconds : Int) (outlets : Outlets) :
    endAfter o before (scrapeOnce o round seconds s ctx scene outlets) =
      endAfter o before (scrapeOnce o round seconds s' ctx scene outlets) := by
  rcases hconnect : s.template.connector.connect ctx s.template.descriptor.text scene
    with ⟨ending, after⟩
  rw [hconnect] at hrefused hsame
  rw [scrapeOnce, scrapeOnce, scrape, scrape, Scraper.scrape_of_refused hrefused hconnect,
    Scraper.scrape_of_refused hrefused hsame.symm]
  -- A scrape that is refused emits nothing, so what is published and told hangs on the refusal.
  cases ending with
  | done session => cases hrefused
  | failed fault => rfl
  | crashed note => rfl

/-! ## Runs -/

/-- The lines once the scraper is built show its collectors and its masked descriptor. -/
theorem readyLines_congr {s s' : Scraper σ τ} (hcollectors : s.collectors = s'.collectors)
    (hshown : s.template.descriptor.redacted = s'.template.descriptor.redacted) (o : Options) :
    readyLines o s = readyLines o s' := by
  rw [readyLines, readyLines, Scraper.names, Scraper.names, hcollectors, hshown]

/-- Starting with a descriptor that is read depends on it in the line that shows it and in the
template of the scraper. -/
theorem start_of_read {c : Connector σ τ} {env : Environment} {o : Options} {descriptor : String}
    {d : Descriptor} (htext : descriptorText env o = .ok descriptor)
    (hread : Descriptor.read descriptor = .ok d) (draws : Draws) :
    start c env draws o =
      let hello := Log.line o .info (programName ++ " " ++ programVersion ++ " starting") []
      let template := Target.unconfigured c d (o.statementTimeout * nanosecondsPerMillisecond)
      match (Catalogue.builtin draws).instantiate o.settings with
      | .error fault =>
        ⟨hello ++ Log.line o .error ("Invalid configuration: " ++ fault.message) [], .error 2⟩
      | .ok collectors =>
        let scraper : Scraper σ τ := ⟨collectors, template⟩
        ⟨hello ++ readyLines o scraper, .ok scraper⟩ := by
  rw [start, htext]
  dsimp only
  rw [Target.ofText, hread]
  dsimp only [Except.map]
  rw [Scraper.ofCatalogue]
  cases (Catalogue.builtin draws).instantiate o.settings <;> rfl

/-- With the options read, a run leaves behind the same for every password. -/
theorem runOptions_congr {client : Client σ κ} (hclient : client.IgnoresPasswords)
    {s : Surroundings σ τ} (hconnect : s.connector.connect = client.connect) {env' : Environment}
    (henv : s.env.SameButPassword env') (hvariable : s.env.get? descriptorVariable = none)
    {o : Options} (hdsn : o.dsn = none) :
    runOptions s o = runOptions { s with env := env' } o := by
  have htext : ∀ env : Environment, env.get? descriptorVariable = none →
      descriptorText env o = env.descriptorText := by
    intro env hnone
    rw [descriptorText, hdsn, hnone]
    rfl
  have hvariable' : env'.get? descriptorVariable = none := by
    rw [← henv.get?_eq descriptorVariable (by decide +kernel), hvariable]
  rw [runOptions, runOptions]
  obtain ⟨problem, hproblem, hproblem'⟩ | ⟨options, options', hoptions, hoptions', hread, hread',
    hsame⟩ := henv.descriptorText
  · rw [start, start, htext _ hvariable, htext _ hvariable', hproblem, hproblem']
  · rw [start_of_read ((htext _ hvariable).trans hoptions) hread,
      start_of_read ((htext _ hvariable').trans hoptions') hread']
    dsimp only
    cases (Catalogue.builtin s.draws).instantiate o.settings with
    | error fault => rfl
    | ok collectors =>
      dsimp only
      let template (d : KeyValue) : Target σ τ := Target.unconfigured s.connector (.keyValue d)
        (o.statementTimeout * nanosecondsPerMillisecond)
      -- The lines before the round show the descriptor redacted, the round shows it to the client
      -- only.
      have hlines : readyLines o ⟨collectors, template ⟨quotedPairs options⟩⟩ =
          readyLines o ⟨collectors, template ⟨quotedPairs options'⟩⟩ := by
        apply readyLines_congr
        · rfl
        · exact redacted_congr hsame
      rw [hlines]
      rcases hround : roundContext o s.server s.now with ⟨ctx | fault | note, scene⟩
      · have hattempts : s.connector.connect ctx (text ⟨quotedPairs options⟩) =
            s.connector.connect ctx (text ⟨quotedPairs options'⟩) := by
          rw [hconnect]
          exact Client.connect_congr (hclient options options' hread hread' hsame) ctx
        have hrefused : (s.connector.connect ctx (text ⟨quotedPairs options⟩) scene).1.isDone =
            false := by
          rw [hconnect]
          exact client.isDone_connect ctx _ scene
        exact endAfter_scrapeOnce_congr hrefused (congrFun hattempts scene) o _ 1 s.seconds
          s.outlets
      · rfl
      · rfl

/-- **A run does not tell the password.**  When sessions are opened through a client library that
reaches no server and ignores passwords, no descriptor is given on the command line or in its
variable, and two environments differ in a password only, the code, the lines and all that went to
the standard output and to files are the same, whatever else the arguments ask for.  The lines are
those that `Daemon` lists. -/
theorem run_hides_password {client : Client σ κ} (hclient : client.IgnoresPasswords)
    {s : Surroundings σ τ} (hconnect : s.connector.connect = client.connect) {env' : Environment}
    (henv : s.env.SameButPassword env') (hvariable : s.env.get? "DATA_SOURCE_NAME" = none)
    {arguments : List String} (harguments : ∀ argument ∈ arguments, ¬Flag.dsn.Names argument) :
    run s arguments = run { s with env := env' } arguments := by
  rw [run, run]
  cases hread : CommandLine.read arguments with
  | error refusal => rfl
  | ok o =>
    have hdsn : o.dsn = none := CommandLine.dsn_eq_none_of_read harguments hread
    exact runOptions_congr hclient hconnect henv hvariable hdsn

/-- The client of the program, a password with quotes, a backslash and what looks like another
pair, and one that looks like a URI: both runs end with the code of a failed round. -/
theorem run_hides_password_hostile :
    let env : Environment :=
      (Dictionary.empty.insert "PGUSER" "monitor").insert "PGHOST" "/nonexistent"
    let s : Surroundings Unit Empty :=
      { connector := Unreachable.connector, server := (),
        env := env.insert "PGPASSWORD" "it's \\ host=evil", draws := .ofWords #[], now := 0,
        seconds := 0, outlets := {} }
    run s ["--once"] = run { s with env := env.insert "PGPASSWORD" "postgres://u:p@h" } ["--once"] ∧
      (run s ["--once"]).code = 1 := by
  intro env s
  have henv : s.env.SameButPassword (env.insert "PGPASSWORD" "postgres://u:p@h") :=
    env.sameButPassword_insert (by decide) (by decide)
  have harguments : ∀ argument ∈ ["--once"], ¬Flag.dsn.Names argument := by
    intro argument hargument
    rw [List.mem_singleton.1 hargument, Flag.Names]
    decide +kernel
  have hsame := run_hides_password (s := s) Unreachable.client_ignoresPasswords
    Unreachable.connect_eq henv (by decide +kernel) harguments
  exact ⟨hsame, by decide +kernel⟩

end Daemon

end PgVitals

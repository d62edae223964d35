import Std.Time.DateTime.Timestamp
import PgVitals.Daemon
import PgVitals.Server.Unreachable

/-!
# The program

Reads the command line, the environment, the clock and random words, and runs the daemon. No driver
for a live server comes with the program, so that every scrape ends when it tries to connect.
-/

namespace PgVitals.Main

/-- The variables that the daemon looks at. -/
def consulted : List String :=
  [Daemon.descriptorVariable, "PGUSER", "USER", "PGHOST", "PGPORT", "PGPASSWORD", "PGDATABASE"]

def environment : IO Environment :=
  consulted.foldlM (fun (env : Environment) name => do
    match ← IO.getEnv name with
    | some value => return env.insert name value
    | none => return env) Dictionary.empty

/-- Random words for the choice of databases. -/
def randomWords : IO Draws := do
  let bytes ← IO.getRandomBytes 4096
  let word (i : Nat) : UInt32 :=
    UInt32.ofNat ((List.range 4).foldl (fun acc k => 256 * acc + (bytes.get! (4 * i + k)).toNat) 0)
  return .ofWords ((List.range 1024).map word).toArray

def say (lines : List String) : IO Unit := lines.forM IO.eprintln

/-- Whether an action on files succeeded, or why it did not. -/
def attempted (action : IO Unit) : IO (Except String Unit) := do
  match ← action.toBaseIO with
  | .ok () => return .ok ()
  | .error problem => return .error (toString problem)

def perform : Publication.Operation → IO (Except String Unit)
  | .write path content => attempted (IO.FS.writeFile path content)
  | .move source target => attempted (IO.FS.rename source target)
  | .remove path => attempted (IO.FS.removeFile path)

/-- Runs a program over the files of the system. -/
def runProgram : Publication.Program String → IO (Except String Unit)
  | .done result => return result
  | .ask operation next => do runProgram (next (← perform operation))

/-- Publishes an output: why it could not be, if so. -/
def publish (path : Option String) (content : String) : IO (Except String Unit) := do
  match path with
  | none =>
    let out ← IO.getStdout
    out.putStr content
    out.flush
    return .ok ()
  | some path => runProgram (Publication.replacing path content)

/-- One round: whether it succeeded, or none if it crashed, and the scraper after it. -/
def round (o : Options) (number : Nat) (scraper : Scraper Unit Empty) :
    IO (Option Bool × Scraper Unit Empty) := do
  let now ← IO.monoMsNow
  match Daemon.roundContext o () now with
  | (.done ctx, scene) =>
    let seconds := (← Std.Time.Timestamp.now).toSecondsSinceUnixEpoch.val
    let scraped := Daemon.scrape o number seconds scraper ctx scene
    say scraped.lines
    match scraped.content with
    | .done (some content) =>
      match ← publish o.output content with
      | .ok () => return (some true, scraped.scraper)
      | .error problem =>
        say (Daemon.unpublishedLine o problem)
        return (some false, scraped.scraper)
    | .done none => return (some false, scraped.scraper)
    | .failed _ => return (none, scraped.scraper)
    | .crashed note =>
      say (Daemon.crashLine note)
      return (none, scraped.scraper)
  | (.crashed note, _) =>
    say (Daemon.crashLine note)
    return (none, scraper)
  | (.failed _, _) => return (none, scraper)

/-- Rounds until the daemon ends: the code. -/
partial def rounds (o : Options) (number : Nat) (scraper : Scraper Unit Empty) : IO UInt32 := do
  let (ok, scraper) ← round o number scraper
  match ok with
  | none => return Daemon.crashCode.toUInt32
  | some ok =>
    if o.once then
      say (Daemon.farewell o)
      return if ok then 0 else 1
    else
      IO.sleep (min (o.interval * 1000) 4294967295).toUInt32
      rounds o (number + 1) scraper

def runOptions (o : Options) : IO UInt32 := do
  let begun := Daemon.start Unreachable.connector (← environment) (← randomWords) o
  say begun.lines
  match begun.result with
  | .error code => return code.toUInt32
  | .ok scraper => rounds o 1 scraper

end PgVitals.Main

def main (arguments : List String) : IO UInt32 := do
  match PgVitals.CommandLine.read arguments with
  | .ok o => PgVitals.Main.runOptions o
  | .error refusal =>
    let run := PgVitals.Daemon.runRefused {} refusal
    IO.print run.outlets.standard
    PgVitals.Main.say run.lines
    return run.code.toUInt32

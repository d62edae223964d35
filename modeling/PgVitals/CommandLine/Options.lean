import PgVitals.Decimal.Reader
import PgVitals.Metric.Rendering
import PgVitals.Settings

/-!
# Options of the daemon

What the command line decides, with the values that hold when it says nothing, and the settings of
the collectors that follow from it.
-/

namespace PgVitals

/-- Why a command line gives no options. -/
inductive Refusal where
  /-- An argument that belongs to no flag. -/
  | unknownArgument
  /-- A flag without its value, or with one that is not among those allowed. -/
  | invalidValue
  /-- A value that is no number of the range. -/
  | valueValidation
  /-- A flag given twice that may be given once. -/
  | argumentConflict
  /-- A value for a switch. -/
  | tooManyValues
  | displayHelp
  | displayVersion
deriving DecidableEq, Repr

structure Options where
  dsn : Option String := none
  /-- The seconds between scrapes. -/
  interval : Nat := 15
  /-- The statement timeout in milliseconds; zero leaves the server's. -/
  statementTimeout : Nat := 0
  /-- The seconds that one scrape may take; zero for no bound. -/
  scrapeTimeout : Nat := 10
  /-- The databases never to visit, as a comma-separated list. -/
  excluded : String := ""
  /-- How many databases are scanned for extensions in one scrape. -/
  scanLimit : Int := defaultScanLimit
  /-- The databases scanned in every scrape, as a comma-separated list. -/
  alwaysScanned : String := ""
  /-- The superusers that are expected, as a comma-separated list. -/
  expectedSuperusers : String := defaultExpectedSuperusers
  /-- The collectors switched on, in the order given. -/
  enabled : List String := []
  /-- The collectors switched off, in the order given. -/
  disabled : List String := []
  /-- The file to write to instead of the standard output. -/
  output : Option String := none
  format : OutputFormat := .text
  /-- Whether to end after one scrape. -/
  once : Bool := false
  /-- How many times more log lines were asked for. -/
  verbosity : Nat := 0
  quiet : Bool := false
deriving DecidableEq, Repr

namespace Options

/-- The settings of the collectors. A collector that is switched on and off is off. -/
def settings (o : Options) : Settings :=
  let base : Settings :=
    { excluded := nameList o.excluded
      scanLimit := o.scanLimit
      alwaysScanned := nameList o.alwaysScanned
      expectedSuperusers := nameList o.expectedSuperusers
      overrides := .empty }
  let on := o.enabled.foldl (fun s name => s.switch name true) base
  o.disabled.foldl (fun s name => s.switch name false) on

end Options

end PgVitals

import PgVitals.CommandLine.Options

/-!
# Flags of the daemon

Each flag has a long name, some have a letter too. Switches take no value; of the others all but
two may be given once.
-/

namespace PgVitals

/-- The flags. -/
inductive Flag where
  | dsn
  | interval
  | statementTimeout
  | scrapeTimeout
  | excluded
  | scanLimit
  | alwaysScanned
  | expectedSuperusers
  | enable
  | disable
  | output
  | format
  | once
  | verbose
  | quiet
  | help
  | version
deriving DecidableEq, Repr

namespace Flag

def all : List Flag :=
  [dsn, interval, statementTimeout, scrapeTimeout, excluded, scanLimit, alwaysScanned,
    expectedSuperusers, enable, disable, output, format, once, verbose, quiet, help, version]

/-- The long name, without the hyphens. -/
def name : Flag → String
  | dsn => "dsn"
  | interval => "interval"
  | statementTimeout => "statement-timeout-ms"
  | scrapeTimeout => "scrape-timeout"
  | excluded => "exclude-databases"
  | scanLimit => "collector.extension.max-databases"
  | alwaysScanned => "collector.extension.include-databases"
  | expectedSuperusers => "expected-superusers"
  | enable => "enable-collector"
  | disable => "disable-collector"
  | output => "output"
  | format => "format"
  | once => "once"
  | verbose => "verbose"
  | quiet => "quiet"
  | help => "help"
  | version => "version"

def letter? : Flag → Option Char
  | interval => some 'i'
  | output => some 'o'
  | verbose => some 'v'
  | quiet => some 'q'
  | help => some 'h'
  | version => some 'V'
  | _ => none

def takesValue : Flag → Bool
  | once | verbose | quiet | help | version => false
  | _ => true

def isRepeatable : Flag → Bool
  | enable | disable | verbose => true
  | _ => false

/-- Whether a value that looks like a negative number may follow the flag. -/
def allowsNegative : Flag → Bool
  | scanLimit => true
  | _ => false

/-- The flag of a long name. -/
def ofName? (name : List Char) : Option Flag := all.find? fun f => f.name.toList = name

def ofLetter? (letter : Char) : Option Flag := all.find? fun f => f.letter? = some letter

def unsigned (value : String) : Except Refusal Nat :=
  (Decimal.readUnsigned64 value.toList).mapError fun _ => .valueValidation

def signed (value : String) : Except Refusal Int :=
  (Decimal.readSigned64 value.toList).mapError fun _ => .valueValidation

def formatOf (value : String) : Except Refusal OutputFormat :=
  if value = "text" then .ok .text
  else if value = "json" then .ok .json
  else .error .invalidValue

/-- The options with the flag taken into account; switches pay no heed to the value. -/
def apply (flag : Flag) (value : String) (o : Options) : Except Refusal Options :=
  match flag with
  | dsn => .ok { o with dsn := some value }
  | interval => (unsigned value).map fun n => { o with interval := n }
  | statementTimeout => (unsigned value).map fun n => { o with statementTimeout := n }
  | scrapeTimeout => (unsigned value).map fun n => { o with scrapeTimeout := n }
  | excluded => .ok { o with excluded := value }
  | scanLimit => (signed value).map fun n => { o with scanLimit := n }
  | alwaysScanned => .ok { o with alwaysScanned := value }
  | expectedSuperusers => .ok { o with expectedSuperusers := value }
  | enable => .ok { o with enabled := o.enabled ++ [value] }
  | disable => .ok { o with disabled := o.disabled ++ [value] }
  | output => if value.isEmpty then .error .invalidValue else .ok { o with output := some value }
  | format => (formatOf value).map fun f => { o with format := f }
  | once => .ok { o with once := true }
  | verbose => .ok { o with verbosity := min 255 (o.verbosity + 1) }
  | quiet => .ok { o with quiet := true }
  | help => .error .displayHelp
  | version => .error .displayVersion

end Flag

end PgVitals

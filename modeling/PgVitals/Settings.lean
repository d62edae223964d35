import PgVitals.Dictionary
import PgVitals.Text.Blank
import PgVitals.Text.Cut

/-!
# Settings of the collectors

What the host decides before the first scrape: databases never to visit, how many databases to
scan for extensions and which of them always, superusers that are expected, and collectors switched
on or off.
-/

namespace PgVitals

/-- The names in a comma-separated list, without the blanks around them; empty names are left
out. -/
def nameList (s : String) : List String :=
  ((s.toList.splitOn ',').map Text.trim |>.filter (!·.isEmpty)).map String.ofList

/-- The databases scanned for extensions in one scrape unless the host says otherwise. -/
def defaultScanLimit : Int := 50

/-- The superusers that are expected unless the host says otherwise, as a comma-separated list. -/
def defaultExpectedSuperusers : String := "pscale_admin"

/-- The settings shared by all collectors. -/
structure Settings where
  /-- Databases that are never visited. -/
  excluded : List String := []
  /-- How many databases are scanned for extensions in one scrape; all when not positive. -/
  scanLimit : Int := defaultScanLimit
  /-- Databases scanned in every scrape, in this order. -/
  alwaysScanned : List String := []
  /-- Superuser roles that are not reported. -/
  expectedSuperusers : List String := nameList defaultExpectedSuperusers
  /-- Collectors switched on or off, whatever their default. -/
  overrides : Dictionary Bool := .empty
deriving DecidableEq

namespace Settings

def isExcluded (s : Settings) (database : String) : Bool := s.excluded.contains database

def switch (s : Settings) (collector : String) (on : Bool) : Settings :=
  { s with overrides := s.overrides.insert collector on }

end Settings

end PgVitals

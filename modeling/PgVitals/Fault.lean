import PgVitals.Text.Quoted

/-!
# What can go wrong

The faults of setting a monitored server up, of collecting from it and of the configuration, each
with the text that reports show.
-/

namespace PgVitals

/-- Why an operation did not give its result. -/
inductive Fault where
  | invalidDescriptor (detail : String)
  /-- No connection, or none any more. -/
  | connectionFailed (detail : String)
  | versionUnparseable (text : String)
  /-- The server refused the statement timeout. -/
  | timeoutConfigurationFailed (detail : String)
  | queryFailed (detail : String)
  /-- A row has not the shape expected. -/
  | scanFailed (detail : String)
  | noData
  | cancelled
  | deadlineExceeded
  /-- The configuration asks for what there is not. -/
  | configuration (detail : String)
deriving DecidableEq, Repr

namespace Fault

def message : Fault → String
  | invalidDescriptor detail => "invalid connection descriptor: " ++ detail
  | connectionFailed detail => "connection failed: " ++ detail
  | versionUnparseable text => "could not parse server version from " ++ Text.quoted text
  | timeoutConfigurationFailed detail => "failed to set statement timeout: " ++ detail
  | queryFailed detail => "query failed: " ++ detail
  | scanFailed detail => "scan failed: " ++ detail
  | noData => "collector returned no data"
  | cancelled => "scrape cancelled"
  | deadlineExceeded => "scrape deadline exceeded"
  | configuration detail => "configuration error: " ++ detail

def isNoData : Fault → Bool
  | noData => true
  | _ => false

/-- Whether the fault makes every collector pointless for this scrape. -/
def isInstanceFatal : Fault → Bool
  | invalidDescriptor _ | connectionFailed _ | versionUnparseable _
  | timeoutConfigurationFailed _ => true
  | _ => false

/-- Whether the fault comes from the end of the scrape's context. -/
def isCancellation : Fault → Bool
  | cancelled | deadlineExceeded => true
  | _ => false

end Fault

end PgVitals

import PgVitals.Descriptor.ClientOptions
import PgVitals.Server.Connector

/-!
# A server that cannot be reached

What a connector to real servers does when there is none: the descriptor is read as the client
reads it, and if there is a host to try, the attempt fails.
-/

namespace PgVitals.Unreachable

variable {σ τ : Type}

/-- The fault of a descriptor for which no connection can be made. -/
def connectFault (descriptor : String) : Fault :=
  match ClientOptions.read? descriptor with
  | none => .invalidDescriptor "invalid connection string"
  | some options =>
    if options.isUsable then .connectionFailed "error connecting to server"
    else .connectionFailed "invalid configuration"

def connect (ctx : ContextId) (descriptor : String) : Step (Scene σ) τ := do
  Scene.check ctx
  Step.fail (connectFault descriptor)

/-- The connector, which never opens a session. -/
def connector : Connector σ τ where
  connect := connect
  query := fun _ _ _ => Step.fail (.connectionFailed "error connecting to server")
  close := fun _ => return ()

end PgVitals.Unreachable

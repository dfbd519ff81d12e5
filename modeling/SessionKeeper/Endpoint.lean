/-!
# Endpoints

The address of a game server: a host as it was given, and a port.
-/

namespace SessionKeeper

structure Endpoint where
  host : String
  port : UInt16
  deriving DecidableEq, Repr

/-- An endpoint as it is shown, with a colon before the port. -/
def Endpoint.text (e : Endpoint) : String := s!"{e.host}:{e.port}"

end SessionKeeper

/-!
# Connection states and notices

The state of the one connection a keeper has, and the notices by which its reconnect episodes are
reported: an episode begins with a loss, goes on with numbered attempts, and ends restored or given
up.
-/

namespace SessionKeeper

inductive LinkState
  | disconnected
  | connected
  /-- A reconnect episode is active. -/
  | reconnecting
  /-- The last episode ran out of time. -/
  | failed
  deriving DecidableEq, Repr

namespace LinkState

/-- Whether the state is one in which a session can be ended. -/
def hasSession : LinkState → Bool
  | connected | reconnecting => true
  | disconnected | failed => false

/-- The word for a state in structured texts. -/
def word : LinkState → String
  | disconnected => "disconnected"
  | connected => "connected"
  | reconnecting => "reconnecting"
  | failed => "reconnect_failed"

def all : List LinkState := [disconnected, connected, reconnecting, failed]

instance : Inhabited LinkState := ⟨disconnected⟩

end LinkState

/-- A message of the keeper itself about the connection. -/
inductive Notice
  /-- An attempt, with its number and the whole seconds left, or a loss, with the time allowed. -/
  | reconnecting (attempt : Option UInt32) (remaining timeout : Option UInt64)
  | reconnected (attempts : UInt32)
  | failed (reason : String)
  deriving DecidableEq, Repr

namespace Notice

/-- The connection was lost and there are so many seconds to get it back. -/
def lost (seconds : UInt64) : Notice := reconnecting none none (some seconds)

def attempt (number : UInt32) (remaining : UInt64) : Notice :=
  reconnecting (some number) (some remaining) none

/-- The time allowed has passed. -/
def timedOut : Notice := failed "timeout"

end Notice

end SessionKeeper

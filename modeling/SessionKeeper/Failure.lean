/-!
# Status codes, faults and failures

A transport answers every operation with a status code, zero for success; a fault is the transport
itself breaking. A failure is what a front-end may be told, and `Failure.message` is its wording.
-/

namespace SessionKeeper

/-- The answer of a transport operation: zero for success, negative for the known causes. -/
abbrev StatusCode := Int

namespace StatusCode

def ok : StatusCode := 0
def noSocket : StatusCode := -1
def badAddress : StatusCode := -2
def refused : StatusCode := -3
def timedOut : StatusCode := -4
def notSent : StatusCode := -6
def notConnected : StatusCode := -7

/-- Why an attempt to connect that ended with a status code failed. -/
def connectReason (code : StatusCode) : String :=
  if code = noSocket then "Socket creation failed"
  else if code = badAddress then "Invalid IP address"
  else if code = refused then "Connection refused"
  else s!"Connection failed (code: {code})"

end StatusCode

/-- A transport breaking, as opposed to an operation that merely failed. -/
inductive TransportFault
  /-- The client library could not be opened, or lacks an entry point. -/
  | library (detail : String)
  /-- A client library is bound already. -/
  | libraryBound
  /-- A sink for inbound messages is registered already. -/
  | sinkTaken
  /-- An argument that the transport cannot take. -/
  | badArgument (detail : String)
  /-- The helper that ran a blocking call went away. -/
  | workerLost (detail : String)
  | broken (detail : String)
  deriving DecidableEq, Repr

def TransportFault.message : TransportFault → String
  | library d => s!"Library loading error: {d}"
  | libraryBound => "Adapter already loaded"
  | sinkTaken => "Inbound sink already registered"
  | badArgument d => s!"Invalid argument: {d}"
  | workerLost d => s!"Worker failure: {d}"
  | broken d => s!"Transport fault: {d}"

/-- Why an operation of the keeper, or its configuration, failed. -/
inductive Failure
  | noTransport
  | transportInstalled
  | connectFailed (code : StatusCode)
  | sendFailed (code : StatusCode)
  | notConnected
  /-- A reconnect episode owns the connection. -/
  | reconnecting
  | reconnectTimedOut (seconds : UInt64)
  | fault (cause : TransportFault)
  | config (detail : String)
  deriving DecidableEq, Repr

def Failure.message : Failure → String
  | noTransport => "Transport adapter not loaded"
  | transportInstalled => "Transport adapter already loaded"
  | connectFailed code => code.connectReason
  | sendFailed code => s!"Send failed (code: {code})"
  | notConnected => "Not connected"
  | reconnecting => "Reconnection in progress"
  | reconnectTimedOut s => s!"Reconnect timed out after {s}s"
  | fault f => f.message
  | config d => s!"Configuration error: {d}"

/-- What a front-end is told about an operation: whether it succeeded, and a text for the player. -/
structure Outcome where
  success : Bool
  message : Option String := none
  deriving DecidableEq, Repr

namespace Outcome

def done (message : String) : Outcome := ⟨true, some message⟩

def silent : Outcome := ⟨true, none⟩

def failed (message : String) : Outcome := ⟨false, some message⟩

end Outcome

def Failure.outcome (f : Failure) : Outcome := Outcome.failed f.message

end SessionKeeper

import SessionKeeper.Endpoint
import SessionKeeper.Failure
import SessionKeeper.Text.Blank
import SessionKeeper.Text.Number

/-!
# Connection settings

Where the server is when a call does not say, and how long things take. `LinkConfig.check` names
the first setting that cannot be used; `LinkConfig.override` lets two texts of the environment
replace host and port, and refuses a port that is none.
-/

namespace SessionKeeper

structure LinkConfig where
  host : String := "127.0.0.1"
  port : UInt16 := 8080
  /-- How long an episode of reconnecting may last. -/
  reconnectTimeoutSecs : UInt64 := 300
  /-- The pause after each attempt to reconnect. -/
  reconnectIntervalSecs : UInt64 := 5
  /-- The time between two looks at the link. -/
  pollIntervalMs : UInt64 := 10
  /-- How long stopping a session waits for its watch to end. -/
  joinTimeoutMs : UInt64 := 1000
  deriving DecidableEq, Repr

namespace LinkConfig

def endpoint (c : LinkConfig) : Endpoint := ⟨c.host, c.port⟩

/-- The bound on an episode in milliseconds. -/
def reconnectTimeout (c : LinkConfig) : Nat := 1000 * c.reconnectTimeoutSecs.toNat

def reconnectInterval (c : LinkConfig) : Nat := 1000 * c.reconnectIntervalSecs.toNat

def pollInterval (c : LinkConfig) : Nat := c.pollIntervalMs.toNat

def joinTimeout (c : LinkConfig) : Nat := c.joinTimeoutMs.toNat

/-- The endpoint that a call asks for: a missing or blank host and a missing or zero port are
those of the settings. -/
def requested (c : LinkConfig) (host : Option String) (port : Option UInt16) : Endpoint where
  host := (host.filter fun h => !Text.allBlank h).getD c.host
  port := (port.filter fun p => p != 0).getD c.port

/-- The first setting that cannot be used, if there is one. -/
def check (c : LinkConfig) : Except Failure Unit :=
  if Text.allBlank c.host then .error (.config "host cannot be empty")
  else if c.port = 0 then .error (.config "port must be between 1 and 65535")
  else if c.reconnectIntervalSecs = 0 then
    .error (.config "reconnect_interval_secs must be greater than 0")
  else if c.reconnectTimeoutSecs < c.reconnectIntervalSecs then
    let timeout := c.reconnectTimeoutSecs
    let interval := c.reconnectIntervalSecs
    .error (.config
      s!"reconnect_timeout_secs ({timeout}) must be at least reconnect_interval_secs ({interval})")
  else if c.pollIntervalMs = 0 then .error (.config "poll_interval_ms must be greater than 0")
  else if c.joinTimeoutMs = 0 then .error (.config "join_timeout_ms must be greater than 0")
  else .ok ()

/-- The variable of the environment that names the port. -/
def portVariable : String := "XIANGQI_PORT"

/-- The settings after the host of the environment, which counts without the blanks around it
unless it is blank altogether. -/
def withHost (c : LinkConfig) (host : Option String) : LinkConfig :=
  match host.filter fun h => !Text.allBlank h with
  | some h => { c with host := Text.trim h }
  | none => c

/-- The settings after the port of the environment, or why it is refused. -/
def withPort (c : LinkConfig) (port : Option String) : Except Failure LinkConfig :=
  match port with
  | none => .ok c
  | some text =>
    match Text.readPort (Text.trim text) with
    | some p => .ok { c with port := p }
    | none => .error (.config s!"{portVariable} is not a valid port: {text}")

/-- The settings after the host and port of the environment, and the failure if the port is
refused; the host is taken all the same. -/
def override (c : LinkConfig) (host port : Option String) : Option Failure × LinkConfig :=
  match (c.withHost host).withPort port with
  | .ok c' => (none, c')
  | .error f => (some f, c.withHost host)

end LinkConfig

end SessionKeeper

import SessionKeeper.CommandLine
import SessionKeeper.LinkConfig
import SessionKeeper.Text.Quoted

/-!
# Settings of the launcher

Settings come from a file, then from the environment, then from the command line; each layer
replaces what it names. `Settings.override` stops at a port of the environment that cannot be read,
before the command line counts.
-/

namespace SessionKeeper

structure Settings where
  connection : LinkConfig := {}
  transport : TransportKind := .tcp
  /-- The client library of the transport that uses one. -/
  libraryPath : String := "lib/libclient.so"
  logLevel : String := "info"
  jsonLogs : Bool := false
  deriving DecidableEq, Repr

namespace Settings

def logLevels : List String := ["trace", "debug", "info", "warn", "error"]

/-- Why settings cannot be used. -/
inductive Problem
  | connection (cause : Failure)
  | noLibraryPath
  | unknownLevel (level : String)
  deriving DecidableEq, Repr

def Problem.message : Problem → String
  | connection f => f.message
  | noLibraryPath => "Native adapter requires a library_path"
  | unknownLevel l => s!"Invalid log level: {l}. Must be one of: {Text.quotedList logLevels}"

/-- The first setting that cannot be used, if there is one. -/
def check (s : Settings) : Except Problem Unit :=
  match s.connection.check with
  | .error f => .error (.connection f)
  | .ok () =>
    if s.transport = .native ∧ s.libraryPath = "" then .error .noLibraryPath
    else if !logLevels.contains s.logLevel then .error (.unknownLevel s.logLevel)
    else .ok ()

/-- The settings with what the command line names in their place. -/
def apply (s : Settings) (a : CommandLine.Arguments) : Settings where
  connection :=
    { s.connection with
      host := a.host.getD s.connection.host
      port := a.port.getD s.connection.port }
  transport := a.transport.getD s.transport
  libraryPath := a.libraryPath.getD s.libraryPath
  logLevel := a.logLevel.getD s.logLevel
  jsonLogs := s.jsonLogs || a.jsonLogs

/-- The settings after host and port of the environment and after the command line, and the failure
if the port of the environment is refused; then the command line does not count. -/
def override (s : Settings) (host port : Option String) (a : CommandLine.Arguments) :
    Option Failure × Settings :=
  match s.connection.override host port with
  | (some f, connection) => (some f, { s with connection })
  | (none, connection) => (none, { s with connection }.apply a)

end Settings

end SessionKeeper

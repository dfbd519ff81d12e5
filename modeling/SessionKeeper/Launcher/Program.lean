import SessionKeeper.Launcher.Schedule
import SessionKeeper.Launcher.Start
import SessionKeeper.Log.Filter
import SessionKeeper.Settings.File
import SessionKeeper.Socket.Link

/-!
# The launcher as a program

A program is started with arguments and an environment, finds a settings file or makes one, sets up
its log, and then runs. `start` is all of that up to the run: it either leads to settings that can
be used, or to the end of the program. `Started.run` is the run.
-/

namespace SessionKeeper.Launcher

structure Environment where
  host : Option String := none
  port : Option String := none
  /-- The filter of the log, if it is text. -/
  logFilter : Option String := none
  deriving DecidableEq, Repr

/-- What a program writes to the error output. -/
inductive Notification
  | line (text : String)
  | record (r : LogRecord)
  deriving DecidableEq, Repr

/-- The lines of a notification, given the names of the sources: a record stands there with its
level and its source in front, or as JSON. -/
def Notification.lines (json : Bool) (name : LogSource → String) : Notification → List String
  | line t => [t]
  | record r =>
    if json then
      [String.ofList (Json.printTable [("level", Json.printText r.level.word),
        ("fields", Json.printTable [("message", Json.printText r.text)]),
        ("target", Json.printText (name r.source))])]
    else s!"{r.level.word} {name r.source}: {r.shown}".splitOn "\n"

/-- How a program ended. -/
structure Exit where
  code : Nat
  output : String := ""
  errors : List Notification := []
  /-- The log goes out as JSON. -/
  jsonLogs : Bool := false
  deriving DecidableEq, Repr

/-- A program that is about to run. -/
structure Started where
  settings : Settings
  means : Means
  filter : List LogDirective
  /-- What it has written to the error output. -/
  errors : List Notification
  deriving DecidableEq, Repr

/-- What is found at a path, and why no file can be made there, if none can. -/
structure Place where
  found : Settings.Found
  refusal : Option String := none
  deriving DecidableEq, Repr

/-- The filter of the log: that of the environment if it can be read, and otherwise the level of the
settings; what is passed over in it is told. -/
def filterOf (e : Environment) (s : Settings) :
    List LogDirective × List (String × LogFilter.Problem) :=
  match e.logFilter.bind LogFilter.strict with
  | some filter => (filter, [])
  | none => LogFilter.lenient s.logLevel

def banner : List String :=
  let gap := String.ofList (List.replicate (22 - CommandLine.versionNumber.length) ' ')
  ["╔══════════════════════════════════════╗",
    "║        ♟️  XIANGQI LAUNCHER ♟️         ║",
    s!"║               v{CommandLine.versionNumber}{gap}║",
    "╚══════════════════════════════════════╝"]

/-- The first records of the log. -/
def greeting (s : Settings) : List LogRecord :=
  (s!"🔧 Logging initialized with level: {s.logLevel}" :: banner).map fun t => ⟨.info, .logging, t⟩

/-- The records that pass a filter, as they are written. -/
def recorded (filter : List LogDirective) (l : List LogRecord) : List Notification :=
  (l.filter (LogFilter.passes filter)).map .record

/-- What a program ends with whose arguments lead to no run. -/
def refused (r : CommandLine.Refusal) : Exit :=
  match r with
  | .help | .version => { code := 0, output := r.text }
  | r => { code := 2, errors := ((r.text.splitOn "\n").dropLast).map .line }

def failed (text : String) : Exit := { code := 1, errors := (text.splitOn "\n").map .line }

/-- Loads the settings, the defaults if a file is yet to be made. -/
def load (p : Place) : Except Settings.LoadFailure Settings :=
  match p.found, p.refusal with
  | .nothing, some reason => .error (.cannotCreate reason)
  | found, _ => Settings.load found

/-- Starts a program whose arguments have been read. -/
def startWith (a : CommandLine.Arguments) (e : Environment) (place : Place)
    (content : String → Library.Content) : Except Exit Started :=
  match load place with
  | .error f => .error (failed s!"❌ Failed to load {a.configPath}: {f.message}")
  | .ok s =>
    match s.override e.host e.port a with
    | (some f, _) => .error (failed s!"❌ Invalid environment override: {f.message}")
    | (none, s) =>
      let (filter, passedOver) := filterOf e s
      let errors := passedOver.map fun (p, e) => .line s!"ignoring `{p}`: {e.message}"
      let errors := errors ++ recorded filter (greeting s)
      match prepare none content s with
      | .ok (means, log) =>
        .ok { settings := s, means, filter, errors := errors ++ recorded filter log }
      | .error r =>
        let r : LogRecord := ⟨.error, .program, s!"❌ Failed to start launcher: {r.message}"⟩
        .error { code := 1, errors := errors ++ recorded filter [r], jsonLogs := s.jsonLogs }

/-- Starts a program. -/
def start (args : List CommandLine.Argument) (e : Environment) (place : String → Place)
    (content : String → Library.Content) : Except Exit Started :=
  match CommandLine.read args with
  | .error r => .error (refused r)
  | .ok a => startWith a e (place a.configPath) content

/-- How a program ends after its run, given the log of the run and what has been printed. -/
def Started.exit (s : Started) (ending : Except String Unit) (log : List LogRecord)
    (output : String) : Exit :=
  let last : List LogRecord := match ending with
    | .ok () => []
    | .error e => [⟨.error, .program, s!"❌ Launcher error: {e}"⟩]
  { code := if last.isEmpty then 0 else 1
    output
    errors := s.errors ++ recorded s.filter (log ++ last)
    jsonLogs := s.settings.jsonLogs }

/-- The run of a program over sockets to its end, on input that has arrived. -/
def Started.run (network : Socket.Network) (input : Input) (s : Started) : Exit :=
  match keeper Socket.transport s.settings.connection { network } with
  | .error f => s.exit (.error f.message) [] ""
  | .ok k =>
    let r := { Run.start s.settings.transport k with input }.finish Socket.transport
    s.exit (r.ending?.getD (.ok ())) r.keeper.logged (Text.Utf8.decodeLossy r.console.written)

end SessionKeeper.Launcher

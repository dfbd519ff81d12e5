import SessionKeeper.Json.Forms
import SessionKeeper.Settings.Basic
import SessionKeeper.Toml.Document

/-!
# Settings files

A file has three sections, of which each and every line in it may be missing. Where there is no
file, one is made with the default settings.
-/

namespace SessionKeeper

/-- Reads a kind of transport: its word, or a table with the word as its only key and nothing under
it. -/
def TransportKind.read (d : Datum) : Except Datum.Problem TransportKind := do
  let words := TransportKind.all.map fun k => (k.word, k)
  match d with
  | .text w => Datum.variant words w
  | .table [(w, v)] =>
    let k ← v.atKey (Datum.variant words w)
    match v.bare with
    | .list [] | .series [] | .table [] => return k
    | _ => v.atValue (throw .other)
  | _ => throw .other

namespace Settings

/-- What is read of the section about the transport. -/
structure TransportSection where
  kind : Option TransportKind := none
  libraryPath : Option String := none

def TransportSection.read : Datum → Except Datum.Problem TransportSection :=
  Datum.record "struct AdapterSettings" ["kind", "library_path"]
    (fun (d : TransportSection) name v => do
      match name with
      | "kind" => return { d with kind := ← Datum.fill name d.kind (TransportKind.read v) }
      | "library_path" =>
        return { d with libraryPath := ← Datum.fill name d.libraryPath (v.asText "path string") }
      | _ => return d)
    {} (fun _ d => .ok d)

/-- What is read of the section about the log. -/
structure LogSection where
  level : Option String := none
  json : Option Bool := none

def LogSection.read : Datum → Except Datum.Problem LogSection :=
  Datum.record "struct LoggingSettings" ["level", "json_format"]
    (fun (d : LogSection) name v => do
      match name with
      | "level" => return { d with level := ← Datum.fill name d.level v.asText }
      | "json_format" => return { d with json := ← Datum.fill name d.json v.asBool }
      | _ => return d)
    {} (fun _ d => .ok d)

structure Draft where
  connection : Option LinkConfig := none
  transport : Option TransportSection := none
  log : Option LogSection := none

/-- The settings of the sections that have been read, and the defaults for the rest. -/
def Draft.close (d : Draft) : Settings :=
  let s : Settings := {}
  let transport := d.transport.getD {}
  let log := d.log.getD {}
  { connection := d.connection.getD s.connection
    transport := transport.kind.getD s.transport
    libraryPath := transport.libraryPath.getD s.libraryPath
    logLevel := log.level.getD s.logLevel
    jsonLogs := log.json.getD s.jsonLogs }

def read : Datum → Except Datum.Problem Settings :=
  Datum.record "struct AppConfig" ["connection", "adapter", "logging"]
    (fun (d : Draft) name v => do
      match name with
      | "connection" =>
        return { d with connection := ← Datum.fill name d.connection (LinkConfig.read v) }
      | "adapter" =>
        return { d with transport := ← Datum.fill name d.transport (TransportSection.read v) }
      | "logging" => return { d with log := ← Datum.fill name d.log (LogSection.read v) }
      | _ => return d)
    {} (fun _ d => .ok d.close)

/-- A text as a value in a file. -/
def quoted (s : String) : String := String.ofList (Json.printText s)

/-- Settings as a file. -/
def print (s : Settings) : String :=
  let c := s.connection
  String.join [
    "[connection]\n",
    s!"host = {quoted c.host}\n",
    s!"port = {c.port}\n",
    s!"reconnect_timeout_secs = {c.reconnectTimeoutSecs}\n",
    s!"reconnect_interval_secs = {c.reconnectIntervalSecs}\n",
    s!"poll_interval_ms = {c.pollIntervalMs}\n",
    s!"join_timeout_ms = {c.joinTimeoutMs}\n",
    "\n[adapter]\n",
    s!"kind = {quoted s.transport.word}\n",
    s!"library_path = {quoted s.libraryPath}\n",
    "\n[logging]\n",
    s!"level = {quoted s.logLevel}\n",
    s!"json_format = {s.jsonLogs}\n"]

/-- What is found where the file should be. -/
inductive Found
  | nothing
  | directory
  | file (content : List UInt8)
  deriving DecidableEq, Repr

/-- Why settings cannot be loaded. -/
inductive LoadFailure
  | isDirectory
  /-- The file is no text. -/
  | noText
  /-- The file cannot be made, for a reason. -/
  | cannotCreate (reason : String)
  /-- The file is no TOML, from a line and column on. -/
  | noToml (line column : Nat)
  /-- A value is not what it should be, if known at a line and column. -/
  | data (problem : Datum.Problem) (place : Option (Nat × Nat))
  deriving DecidableEq, Repr

def placeMessage (line column : Nat) : String :=
  s!"TOML parse error at line {line}, column {column}"

def LoadFailure.message : LoadFailure → String
  | isDirectory => "Is a directory (os error 21)"
  | noText => "stream did not contain valid UTF-8"
  | cannotCreate reason => reason
  | noToml line column => placeMessage line column
  | data p place =>
    let head := (place.map fun (line, column) => placeMessage line column ++ "\n").getD ""
    head ++ p.message.getD "invalid value"

/-- Reads settings from a text. -/
def parse (text : String) : Except LoadFailure Settings :=
  let s := text.toList
  match Toml.read s with
  | .error e =>
    let (line, column) := Toml.position s e.rest.length
    .error (.noToml line column)
  | .ok d =>
    match read d with
    | .ok settings => .ok settings
    | .error p => .error (.data p (p.left?.map (Toml.position s)))

/-- Loads settings from what is found; the defaults where nothing is. -/
def load : Found → Except LoadFailure Settings
  | .nothing => .ok {}
  | .directory => .error .isDirectory
  | .file content =>
    match Text.Utf8.decode? content with
    | none => .error .noText
    | some text => parse text

end Settings

end SessionKeeper

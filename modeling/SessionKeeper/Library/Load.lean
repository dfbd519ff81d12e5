import SessionKeeper.Failure
import SessionKeeper.Log

/-!
# Loading a client library

A client library is a shared object with six entry points. A process binds at most one; a file that
cannot be bound is refused with the first reason found.
-/

namespace SessionKeeper.Library

/-- What a client library offers. -/
inductive Entry
  | connect
  | disconnect
  | send
  | isConnected
  | process
  | setCallback
  deriving DecidableEq, Repr

/-- The name that an entry point is exported under. -/
def Entry.symbol : Entry → String
  | connect => "client_connect"
  | disconnect => "client_disconnect"
  | send => "client_send_json"
  | isConnected => "client_is_connected"
  | process => "client_process_messages"
  | setCallback => "client_set_message_callback"

/-- The entry points in the order in which they are looked up. -/
def Entry.all : List Entry := [connect, disconnect, send, isConnected, process, setCallback]

/-- What is found at a path. -/
inductive Content
  | nothing
  /-- Something that the loader refuses, for a reason. -/
  | unloadable (reason : String)
  /-- A shared object with the names that it exports. -/
  | sharedObject (exported : List String)
  deriving DecidableEq, Repr

/-- Why what is found at a path cannot be bound, if it cannot. -/
def refusal (path : String) : Content → Option String
  | .nothing => some s!"C client library not found: {path}"
  | .unloadable reason => some s!"{path}: {path}: {reason}"
  | .sharedObject exported =>
    (Entry.all.find? fun e => !exported.contains e.symbol).map fun e =>
      s!"missing symbol {e.symbol}: {path}: undefined symbol: {e.symbol}"

/-- Binds what is found at a path, given the path that the process has bound already; the answer is
the path bound now, and what is logged. -/
def load (bound : Option String) (path : String) (content : Content) :
    Except TransportFault (String × LogRecord) :=
  match bound, refusal path content with
  | some _, _ => .error .libraryBound
  | none, some reason => .error (.library reason)
  | none, none => .ok (path, ⟨.info, .library, s!"✅ C client library loaded: {path}"⟩)

end SessionKeeper.Library

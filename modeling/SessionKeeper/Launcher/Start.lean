import SessionKeeper.Keeper.Call
import SessionKeeper.Library.Load
import SessionKeeper.Settings.Basic

/-!
# Starting a launcher

A launcher starts with settings that can be used and a transport that can be had: lines over a
socket, or a client library that this process binds.
-/

namespace SessionKeeper.Launcher

/-- What a launcher talks through. -/
inductive Means
  | socket
  | library (path : String)
  deriving DecidableEq, Repr

/-- The means that settings ask for, and what is logged about it; `bound` is the library that the
process has bound already, and `content` tells what is found at a path. -/
def means (bound : Option String) (content : String → Library.Content) (s : Settings) :
    Except Failure (Means × List LogRecord) :=
  match s.transport with
  | .tcp => .ok (.socket, [])
  | .native =>
    match Library.load bound s.libraryPath (content s.libraryPath) with
    | .error f => .error (.fault f)
    | .ok (path, loaded) =>
      .ok (.library path,
        [loaded, ⟨.info, .launcher, s!"🔌 Native transport bound to {path}"⟩])

/-- Why a launcher does not start. -/
inductive Refusal
  | settings (problem : Settings.Problem)
  | failure (f : Failure)
  deriving DecidableEq, Repr

def Refusal.message : Refusal → String
  | settings p => p.message
  | failure f => f.message

/-- The means of a launcher, if its settings can be used. -/
def prepare (bound : Option String) (content : String → Library.Content) (s : Settings) :
    Except Refusal (Means × List LogRecord) :=
  match s.check with
  | .error p => .error (.settings p)
  | .ok () =>
    match means bound content s with
    | .ok m => .ok m
    | .error f => .error (.failure f)

/-- A keeper over a transport that is installed. -/
def keeper {State Op : Type} (T : Transport State Op) (config : LinkConfig) (transport : State) :
    Except Failure (Keeper State Op) :=
  Keeper.install T { config, transport }

end SessionKeeper.Launcher

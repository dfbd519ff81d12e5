import SessionKeeper.Json.Notice
import SessionKeeper.Keeper.Step
import SessionKeeper.Launcher.Console
import SessionKeeper.Launcher.Input
import SessionKeeper.TransportKind

/-!
# A run of the launcher

A run connects, and then does whatever comes first: send a line of the input, print what has been
queued, or stop at the shutdown. It ends with the session cleaned up, whatever ended it, and prints
what is queued once more if nothing went wrong. A notice in the queue that reconnecting has failed
ends the run too.
-/

namespace SessionKeeper.Launcher

/-- How a run ends: well, or with an error. -/
abbrev Ending := Except String Unit

/-- Where a run waits. -/
inductive Phase
  | connecting (call : Nat)
  /-- Cleans up after it could not connect. -/
  | dismissing (call : Nat) (error : String)
  | looping
  /-- Sends a line. -/
  | forwarding (call : Nat)
  /-- Cleans up after the session. -/
  | cleaning (call : Nat) (ending : Ending)
  | finished (ending : Ending)

/-- The time between two looks at the queue, in milliseconds. -/
def drainInterval : Nat := 50

/-- How late a look may be for the next one to keep its time. -/
def tolerance : Nat := 5

structure Run (State Op : Type) where
  kind : TransportKind
  keeper : Keeper State Op
  phase : Phase
  input : Input := {}
  console : Console := {}
  /-- What the shutdown ended with, if it has come. -/
  shutdown : Option Ending := none
  /-- The instant of the next look at the queue. -/
  tick : Nat := 0

/-- What a run may do next. -/
inductive Branch
  | shutdown
  | line
  | tick
  deriving DecidableEq, Repr

/-- What is logged about a notice. -/
def report : Notice → LogLevel × String
  | .reconnecting (some attempt) remaining _ =>
    let left := remaining.getD 0
    (.info, s!"🔄 Reconnect attempt {attempt} ({left}s left)")
  | .reconnecting none _ timeout =>
    let limit := timeout.getD 0
    (.warn, s!"📴 Connection lost, retrying for up to {limit}s")
  | .reconnected attempts => (.info, s!"✅ Reconnected after {attempts} attempts")
  | .failed reason => (.error, s!"❌ Reconnect failed: {reason}")

/-- Whether a notice ends the run. -/
def isFinal : Notice → Bool
  | .failed _ => true
  | _ => false

variable {State Op : Type}

namespace Run

def log (level : LogLevel) (text : String) (r : Run State Op) : Run State Op :=
  { r with keeper := r.keeper.log level .launcher text }

/-- Begins a run. -/
def start (kind : TransportKind) (k : Keeper State Op) : Run State Op :=
  let target := k.config.endpoint.text
  let k := k.log .info .launcher s!"🌟 Connecting to {target} via {kind.word} adapter"
  { kind, keeper := k.call (.connect none none), phase := .connecting k.calls.length }

/-- Cleans up; the session is over. -/
def clean (ending : Ending) (r : Run State Op) : Run State Op :=
  { r with
    keeper := r.keeper.call .cleanup
    phase := .cleaning r.keeper.calls.length ending }

/-- Reports a message that is a notice, and tells whether it ends the run. -/
def announce (message : String) (r : Run State Op) : Run State Op × Bool :=
  match Notice.ofMessage? message with
  | none => (r, false)
  | some n => (r.log (report n).1 (report n).2, isFinal n)

/-- Prints messages and flushes; the answer tells whether one of them ends the run, or why the
output refuses. -/
def print (gaveUp : Bool) (r : Run State Op) : List String → Run State Op × Except String Bool
  | [] =>
    match r.console.flush with
    | none => (r, .ok gaveUp)
    | some reason => (r, .error reason)
  | m :: rest =>
    let (r, final) := r.announce m
    match r.console.print m with
    | (console, none) => print (gaveUp || final) { r with console } rest
    | (console, some reason) => ({ r with console }, .error reason)

/-- Takes everything out of the queue and prints it. -/
def drain (r : Run State Op) : Run State Op × Except String Bool :=
  let (messages, keeper) := r.keeper.takeQueue
  { r with keeper }.print false messages

/-- Leaves the loop for good: what is queued is printed. -/
def leave (r : Run State Op) : Run State Op :=
  match r.drain with
  | (r, .ok _) => r.clean (.ok ())
  | (r, .error reason) => r.clean (.error reason)

/-- Sends a line without the blanks around it, unless it is blank. -/
def forward (line : String) (r : Run State Op) : Run State Op :=
  let payload := Text.trim line
  if payload.isEmpty then r
  else
    { r with
      keeper := r.keeper.call (.send payload)
      phase := .forwarding r.keeper.calls.length }

/-- Takes the next line of the input. -/
def takeLine (r : Run State Op) : Run State Op :=
  match r.input.next? with
  | none => r
  | some (line, input) =>
    let r := { r with input }
    match line with
    | .text s => r.forward s
    | .unreadable reason => r.clean (.error reason)
    | .none => r.log .info "📭 Input closed" |>.leave

/-- Looks at the queue. The next look is an interval after this one was due, or after now if this
one is late. -/
def look (r : Run State Op) : Run State Op :=
  let now := r.keeper.now
  let due := if r.tick + tolerance < now then now else r.tick
  match { r with tick := due + drainInterval }.drain with
  | (r, .ok false) => r
  | (r, .ok true) => r.leave
  | (r, .error reason) => r.clean (.error reason)

/-- Whether a branch can be taken. -/
def open? (r : Run State Op) : Branch → Bool
  | .shutdown => r.shutdown.isSome
  | .line => r.input.cut.isSome
  | .tick => r.tick ≤ r.keeper.now

/-- Takes a branch. -/
def take (r : Run State Op) : Branch → Run State Op
  | .shutdown =>
    match r.shutdown with
    | none => r
    | some (.ok ()) => r.leave
    | some (.error e) => r.clean (.error e)
  | .line => r.takeLine
  | .tick => r.look

def answer? (r : Run State Op) (call : Nat) : Option Answer :=
  r.keeper.calls[call]?.bind CallPhase.answer?

/-- What an answer tells: whether it went well, and its text. -/
def outcomeOf : Answer → Outcome
  | .outcome o => o
  | _ => Outcome.silent

/-- Goes on after a call has been answered. -/
def proceed (r : Run State Op) : Run State Op :=
  match r.phase with
  | .connecting c =>
    match (r.answer? c).map outcomeOf with
    | none => r
    | some o =>
      if o.success then { r with phase := .looping, tick := r.keeper.now }
      else
        let target := r.keeper.config.endpoint.text
        let reason := o.message.getD "Connection failed"
        { r with
          keeper := r.keeper.call .cleanup
          phase := .dismissing r.keeper.calls.length s!"Could not connect to {target}: {reason}" }
  | .dismissing c error =>
    if (r.answer? c).isSome then { r with phase := .finished (.error error) } else r
  | .forwarding c =>
    match (r.answer? c).map outcomeOf with
    | none => r
    | some o =>
      let reason := o.message.getD "unknown error"
      let r := if o.success then r else r.log .warn s!"⚠️ Send failed: {reason}"
      { r with phase := .looping }
  | .cleaning c ending =>
    if (r.answer? c).isSome then
      { r.log .info "👋 Launcher stopped" with phase := .finished ending }
    else r
  | .looping | .finished _ => r

/-- The call that a run waits for. -/
def awaited? (r : Run State Op) : Option Nat :=
  match r.phase with
  | .connecting c | .dismissing c _ | .forwarding c | .cleaning c _ => some c
  | .looping | .finished _ => none

/-- How a run has ended, if it has. -/
def ending? (r : Run State Op) : Option Ending :=
  match r.phase with
  | .finished e => some e
  | _ => none

end Run

/-- What may happen in a run. -/
inductive RunStep (State : Type)
  /-- A step of the keeper: an actor goes on, time passes, the transport changes, or somebody else
  makes a call. -/
  | keeper (s : Step State)
  | proceed
  | take (b : Branch)
  /-- Bytes of the input arrive. -/
  | type (bytes : List UInt8)
  | closeInput
  | shutDown (ending : Ending)

variable (T : Transport State Op)

/-- The run after a step, if the step can be taken. -/
def Run.next? (r : Run State Op) : RunStep State → Option (Run State Op)
  | .keeper s => (r.keeper.next? T s).map fun keeper => { r with keeper }
  | .proceed =>
    match r.awaited? with
    | none => none
    | some c => if (r.answer? c).isSome then some r.proceed else none
  | .take b =>
    match r.phase with
    | .looping => if r.open? b then some (r.take b) else none
    | _ => none
  | .type bytes =>
    if r.input.closed then none
    else some { r with input := { r.input with arrived := r.input.arrived ++ bytes } }
  | .closeInput => some { r with input := { r.input with closed := true } }
  | .shutDown e => if r.shutdown.isSome then none else some { r with shutdown := some e }

end SessionKeeper.Launcher

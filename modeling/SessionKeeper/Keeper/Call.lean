import SessionKeeper.Keeper.Episode
import SessionKeeper.Keeper.Watch
import SessionKeeper.Text.Duration

/-!
# Calls

What front-ends do with a keeper: connect, disconnect, clean up, send, and take the messages. A
call answers with an outcome and never fails otherwise. Stopping a session raises its stop signal,
waits for its watch until a deadline, aborts the watch after that, and aborts its episode.
-/

namespace SessionKeeper.Keeper

variable {State Op : Type} (T : Transport State Op)

/-- Raises the stop signal of a session. -/
def raiseStop (i : Nat) (k : Keeper State Op) : Keeper State Op :=
  match k.watches[i]? with
  | none => k
  | some w => k.setWatch i { w with stopped := true } |>.record (.stopRaised i)

/-- Aborts the episode that ends with a session. -/
def abortLastEpisode (i : Nat) (k : Keeper State Op) : Keeper State Op :=
  match k.watches[i]? with
  | none => k
  | some w =>
    match w.abortable with
    | none => k
    | some e => k.setWatch i { w with abortable := none } |>.abortEpisode T e

/-- Aborts a watch that is not over, and with it a pump it waits for. -/
def abortWatch (i : Nat) (k : Keeper State Op) : Keeper State Op :=
  match k.watches[i]? with
  | none => k
  | some w =>
    if w.phase.over then k
    else
      let k := match w.phase with
        | .pumping op => { k with transport := T.abandon op k.transport }
        | _ => k
      k.setWatch i { w with phase := .aborted }

/-- Stops the workers once neither the owner nor a running call holds the keeper. -/
def release (k : Keeper State Op) : Keeper State Op :=
  if k.held || k.calls.any (fun c => c.answer?.isNone) then k
  else
    match k.slot with
    | none => k
    | some i => { k with slot := none }.raiseStop i |>.abortLastEpisode T i

/-- The owner lets the keeper go. -/
def drop (k : Keeper State Op) : Keeper State Op := { k with held := false }.release T

/-- Answers a call. -/
def reply (c : Nat) (a : Answer) (k : Keeper State Op) : Keeper State Op :=
  k.setCall c (.answered a) |>.record (.answered c a) |>.release T

/-- A connect call fails. -/
def refuse (c : Nat) (f : Failure) (k : Keeper State Op) : Keeper State Op :=
  k.log .warn .keeper s!"Connect failed: {f.message}" |>.reply T c (.outcome f.outcome)

/-- Records the connection that a connect call made, unless an episode owns the state. -/
def accept (c : Nat) (target : Endpoint) (k : Keeper State Op) : Keeper State Op :=
  if k.state = .reconnecting then k.refuse T c .reconnecting
  else
    { k with endpoint := some target }.setState (.call c) .connected
      |>.setCall c (.recorded target)

/-- Gives the dialing of a connect call its turn. -/
def dialCall (c : Nat) (target : Endpoint) (op : Op) (k : Keeper State Op) : Keeper State Op :=
  match k.operate T (.call c) op with
  | (k, .pending op) => k.setCall c (.dialing target op)
  | (k, .done (.error f)) => k.refuse T c (.fault f)
  | (k, .done (.ok code)) =>
    if code ≠ StatusCode.ok then k.refuse T c (.connectFailed code)
    else
      match T.isUp k.transport with
      | .error f => k.refuse T c (.fault f)
      | .ok false => k.refuse T c (.connectFailed code)
      | .ok true => k.accept T c target

/-- Begins a session unless the watch of the current one still runs. -/
def ensureWatch (k : Keeper State Op) : Keeper State Op :=
  if k.isPolling then k
  else
    let i := k.watches.length
    { k with
      sessions := k.sessions + 1
      watches := k.watches ++ [({} : Watch Op)]
      slot := some i }.record (.watchBegan i)

/-- The transport is closed as far as it goes; the call ends with the state disconnected. -/
def closed (c : Nat) (ending : Ending) (k : Keeper State Op) : Keeper State Op :=
  let k := if k.state = .disconnected then k else k.setState (.call c) .disconnected
  match ending with
  | .disconnect =>
    k.log .info .keeper "👋 Disconnected" |>.reply T c (.outcome (Outcome.done "Disconnected"))
  | .cleanup => k.reply T c .done

/-- Gives the closing of the transport its turn. -/
def closeCall (c : Nat) (ending : Ending) (op : Op) (k : Keeper State Op) : Keeper State Op :=
  match k.operate T (.call c) op, ending with
  | (k, .pending op), _ => k.setCall c (.closing ending op)
  | (k, .done (.ok code)), .disconnect =>
    (if code ≠ StatusCode.ok then k.log .warn .keeper s!"Adapter disconnect returned {code}" else k)
      |>.closed T c ending
  | (k, .done (.error f)), .disconnect =>
    k.log .warn .keeper s!"Adapter disconnect failed: {f.message}" |>.closed T c ending
  | (k, .done (.ok _)), .cleanup =>
    k.log .info .keeper "🧹 Connection closed during cleanup" |>.closed T c ending
  | (k, .done (.error f)), .cleanup =>
    k.log .warn .keeper s!"Adapter disconnect during cleanup failed: {f.message}"
      |>.log .info .keeper "🧹 Connection closed during cleanup"
      |>.closed T c ending

/-- Closes the transport after a session: always to disconnect, and to clean up if the link is
up. -/
def closeTransport (c : Nat) (ending : Ending) (k : Keeper State Op) : Keeper State Op :=
  if ending = .cleanup && !k.isConnected T then k.closed T c ending
  else
    k.record (.invoked (.call c) .disconnect) |>.closeCall T c ending (T.start .disconnect)

/-- Takes the session out of its slot and raises its stop signal. -/
def claim (c : Nat) (ending : Ending) (k : Keeper State Op) : Keeper State Op :=
  match k.slot with
  | none => k.closeTransport T c ending
  | some i =>
    { k with slot := none }.raiseStop i
      |>.setCall c (.joining ending i (wake k.now k.config.joinTimeout))

/-- The watch that a call waited for has ended, or its time is over. -/
def joined (c : Nat) (ending : Ending) (i : Nat) (k : Keeper State Op) : Keeper State Op :=
  let k :=
    if k.watchOver i then k
    else
      k.log .warn .keeper
          s!"Poll loop did not stop within {Text.millis k.config.joinTimeout}, aborting"
        |>.abortWatch T i
  k.abortLastEpisode T i |>.closeTransport T c ending

/-- Gives the sending of a payload its turn. -/
def sendCall (c : Nat) (op : Op) (k : Keeper State Op) : Keeper State Op :=
  match k.operate T (.call c) op with
  | (k, .pending op) => k.setCall c (.sending op)
  | (k, .done (.error f)) => k.reply T c (.outcome (Failure.fault f).outcome)
  | (k, .done (.ok code)) =>
    k.reply T c (.outcome
      (if code = StatusCode.ok then Outcome.silent else (Failure.sendFailed code).outcome))

/-- The first part of a call. -/
def beginCall (c : Nat) (r : CallRequest) (k : Keeper State Op) : Keeper State Op :=
  match r with
  | .connect host port =>
    let target := k.config.requested host port
    if !k.installed then k.refuse T c .noTransport
    else if k.state = .reconnecting then k.refuse T c .reconnecting
    else
      k.record (.invoked (.call c) (.connect target))
        |>.dialCall T c target (T.start (.connect target))
  | .disconnect =>
    if !k.installed || !k.state.hasSession then
      k.reply T c (.outcome Failure.notConnected.outcome)
    else k.setCall c (.claiming .disconnect)
  | .cleanup => k.setCall c (.claiming .cleanup)
  | .send payload =>
    if !k.installed then k.reply T c (.outcome Failure.noTransport.outcome)
    else if k.state ≠ .connected then k.reply T c (.outcome Failure.notConnected.outcome)
    else
      k.record (.invoked (.call c) (.send payload)) |>.sendCall T c (T.start (.send payload))
  | .messages =>
    k.takeQueue.2.reply T c (.messages k.takeQueue.1)

/-- Makes a call. -/
def call (r : CallRequest) (k : Keeper State Op) : Keeper State Op :=
  { k with calls := k.calls ++ [CallPhase.opened r] }.record (.called k.calls.length r)

/-- Goes on with a call from where it waits. -/
def resumeCall (c : Nat) (k : Keeper State Op) : Keeper State Op :=
  match k.calls[c]? with
  | none => k
  | some p =>
    match p with
    | .opened r => k.beginCall T c r
    | .dialing target op => k.dialCall T c target op
    | .recorded target =>
      k.ensureWatch.log .info .keeper s!"🔗 Connected to {target.text}"
        |>.reply T c (.outcome (Outcome.done "Connected"))
    | .claiming ending => k.claim T c ending
    | .joining ending i _ => k.joined T c ending i
    | .closing ending op => k.closeCall T c ending op
    | .sending op => k.sendCall T c op
    | .answered _ => k

/-- Whether a call can go on. -/
def callReady (k : Keeper State Op) (p : CallPhase Op) : Bool :=
  match p with
  | .dialing _ op | .closing _ op | .sending op => T.ready op k.now k.transport
  | .opened _ | .recorded _ | .claiming _ => true
  | .joining _ i deadline => k.watchOver i || deadline ≤ k.now
  | .answered _ => false

/-- The instant that a call waits for. -/
def CallPhase.due (T : Transport State Op) (p : CallPhase Op) : Option Nat :=
  match p with
  | .dialing _ op | .closing _ op | .sending op => T.due op
  | .joining _ _ deadline => some deadline
  | _ => none

/-- Installs the transport and registers the sink with it. -/
def install (k : Keeper State Op) : Except Failure (Keeper State Op) :=
  if k.installed then .error .transportInstalled
  else
    match T.register k.transport with
    | .ok s => .ok { k with transport := s, installed := true }
    | .error f => .error (.fault f)

end SessionKeeper.Keeper

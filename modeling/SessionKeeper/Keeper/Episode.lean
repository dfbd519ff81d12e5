import SessionKeeper.Keeper.State

/-!
# Episodes of reconnecting

An episode tries to connect to one endpoint until it succeeds, is stopped, or has run out of time
before an attempt; after each attempt it rests for the configured interval. Every attempt is
announced with its number and the whole seconds left, and the end with its cause unless the episode
was stopped.
-/

namespace SessionKeeper.Keeper

variable {State Op : Type} (T : Transport State Op)

/-- An episode gets the connection back. -/
def succeed (i : Nat) (e : Episode Op) (k : Keeper State Op) : Keeper State Op :=
  k.setEpisode i { e with phase := .succeeded }
    |>.setState (.episode i) .connected
    |>.notify (.episode i) (.reconnected (UInt32.ofNat e.attempts))
    |>.log .info .episode s!"✅ [Reconnect] Success after {e.attempts} attempts!"

/-- An episode runs out of time. -/
def timeOut (i : Nat) (e : Episode Op) (k : Keeper State Op) : Keeper State Op :=
  let cause := Failure.reconnectTimedOut k.config.reconnectTimeoutSecs
  k.setEpisode i { e with phase := .timedOut }
    |>.setState (.episode i) .failed
    |>.notify (.episode i) .timedOut
    |>.log .warn .episode s!"❌ [Reconnect] {cause.message} ({e.attempts} attempts)"

/-- An episode is stopped; a state that is still its own becomes disconnected. -/
def stopEpisode (i : Nat) (e : Episode Op) (k : Keeper State Op) : Keeper State Op :=
  let k := k.setEpisode i { e with phase := .stopped }
  if k.state = .reconnecting then k.setState (.episode i) .disconnected else k

/-- Gives the closing of a late link its turn. -/
def closeLate (i : Nat) (e : Episode Op) (op : Op) (k : Keeper State Op) : Keeper State Op :=
  match k.operate T (.episode i) op with
  | (k, .pending op) => k.setEpisode i { e with phase := .closing op }
  | (k, .done (.ok _)) => k.stopEpisode i e
  | (k, .done (.error f)) =>
    k.log .warn .episode s!"[Reconnect] Closing late link failed: {f.message}" |>.stopEpisode i e

/-- What an attempt came to: whether the link is up, if the transport did not break. -/
def attemptOutcome (r : Result) (k : Keeper State Op) : Except TransportFault Bool :=
  match r with
  | .error f => .error f
  | .ok code => if code = StatusCode.ok then T.isUp k.transport else .ok false

/-- Rests until the next attempt. -/
def restEpisode (i : Nat) (e : Episode Op) (k : Keeper State Op) : Keeper State Op :=
  k.setEpisode i { e with phase := .resting (wake k.now k.config.reconnectInterval) }

/-- Judges an attempt that is done. -/
def judge (i : Nat) (e : Episode Op) (r : Result) (k : Keeper State Op) : Keeper State Op :=
  match k.isStopped e.watch, k.attemptOutcome T r with
  | true, .ok true =>
    k.record (.invoked (.episode i) .disconnect) |>.closeLate T i e (T.start .disconnect)
  | true, _ => k.stopEpisode i e
  | false, .ok true => k.succeed i e
  | false, .ok false => k.restEpisode i e
  | false, .error f =>
    k.log .warn .episode s!"[Reconnect] Attempt {e.attempts} failed: {f.message}"
      |>.restEpisode i e

/-- Gives an attempt its turn. -/
def dial (i : Nat) (e : Episode Op) (op : Op) (k : Keeper State Op) : Keeper State Op :=
  match k.operate T (.episode i) op with
  | (k, .pending op) => k.setEpisode i { e with phase := .dialing op }
  | (k, .done r) => k.judge T i e r

/-- Makes the next attempt, if there is time for one. -/
def attempt (i : Nat) (e : Episode Op) (k : Keeper State Op) : Keeper State Op :=
  let elapsed := k.now - e.since
  if k.isStopped e.watch then k.stopEpisode i e
  else if k.config.reconnectTimeout ≤ elapsed then k.timeOut i e
  else
    let e := { e with attempts := e.attempts + 1 }
    let left := (k.config.reconnectTimeout - elapsed) / 1000
    k.log .info .episode s!"[Reconnect] Attempt {e.attempts}, {left}s remaining..."
      |>.notify (.episode i) (.attempt (UInt32.ofNat e.attempts) (UInt64.ofNat left))
      |>.record (.invoked (.episode i) (.connect e.target))
      |>.dial T i e (T.start (.connect e.target))

/-- Goes on with an episode from where it waits. -/
def resumeEpisode (i : Nat) (k : Keeper State Op) : Keeper State Op :=
  match k.episodes[i]? with
  | none => k
  | some e =>
    match e.phase with
    | .starting =>
      let every := k.config.reconnectIntervalSecs
      let limit := k.config.reconnectTimeoutSecs
      k.log .info .episode s!"🔄 Reconnecting to {e.target.text} every {every}s for up to {limit}s"
        |>.attempt T i e
    | .dialing op => k.dial T i e op
    | .closing op => k.closeLate T i e op
    | .resting _ => if k.isStopped e.watch then k.stopEpisode i e else k.attempt T i e
    | .succeeded | .timedOut | .stopped | .aborted => k

/-- Whether an episode can go on. -/
def episodeReady (k : Keeper State Op) (e : Episode Op) : Bool :=
  match e.phase with
  | .starting => true
  | .dialing op | .closing op => T.ready op k.now k.transport
  | .resting wake => k.isStopped e.watch || wake ≤ k.now
  | .succeeded | .timedOut | .stopped | .aborted => false

/-- The instant that an episode waits for. -/
def Episode.due (T : Transport State Op) (e : Episode Op) : Option Nat :=
  match e.phase with
  | .dialing op | .closing op => T.due op
  | .resting wake => some wake
  | _ => none

/-- Aborts an episode that is not over, and with it the operation it waits for. -/
def abortEpisode (i : Nat) (k : Keeper State Op) : Keeper State Op :=
  match k.episodes[i]? with
  | none => k
  | some e =>
    match e.phase with
    | .dialing op | .closing op =>
      { k with transport := T.abandon op k.transport }.setEpisode i { e with phase := .aborted }
    | .starting | .resting _ => k.setEpisode i { e with phase := .aborted }
    | .succeeded | .timedOut | .stopped | .aborted => k

end SessionKeeper.Keeper

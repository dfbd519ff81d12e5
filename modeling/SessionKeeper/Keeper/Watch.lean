import SessionKeeper.Keeper.State

/-!
# The watch of a session

At every tick a watch asks whether the link is up. If it is, inbound messages are pumped into the
queue; if it was and no longer is, the loss is announced and an episode of reconnecting begins. A
raised stop signal ends the watch at its next tick or rest, after its last episode.
-/

namespace SessionKeeper.Keeper

variable {State Op : Type} (T : Transport State Op)

/-- Ends a watch, after its last episode if it has one. -/
def leave (i : Nat) (w : Watch Op) (k : Keeper State Op) : Keeper State Op :=
  k.setWatch i { w with phase := if w.episode.isSome then .leaving else .ended }

/-- Rests until the next tick, unless the stop signal is raised. -/
def rest (i : Nat) (w : Watch Op) (k : Keeper State Op) : Keeper State Op :=
  if w.stopped then k.leave i w
  else k.setWatch i { w with phase := .resting (wake k.now k.config.pollInterval) }

/-- Announces a loss and takes the state for an episode. -/
def lose (i : Nat) (k : Keeper State Op) : Keeper State Op :=
  k.log .warn .watch "🔌 Connection lost! Starting auto-reconnect..."
    |>.setState (.watch i) .reconnecting
    |>.notify (.watch i) (.lost k.config.reconnectTimeoutSecs)

/-- Begins an episode of reconnecting to `target`. -/
def beginEpisode (i : Nat) (w : Watch Op) (target : Endpoint) (k : Keeper State Op) :
    Keeper State Op :=
  let e := k.episodes.length
  let begun : Episode Op := { watch := i, target, since := k.now }
  { k with episodes := k.episodes ++ [begun] }.record (.episodeBegan e)
    |>.rest i { w with episode := some e, abortable := some e }

/-- Gives a pump its turn; when it is done, moves what was delivered into the queue. -/
def pump (i : Nat) (w : Watch Op) (op : Op) (k : Keeper State Op) : Keeper State Op :=
  match k.operate T (.watch i) op with
  | (k, .pending op) => k.setWatch i { w with phase := .pumping op }
  | (k, .done (.ok _)) => k.forward i |>.rest i w
  | (k, .done (.error f)) =>
    k.log .warn .watch s!"Pumping inbound messages failed: {f.message}" |>.forward i |>.rest i w

/-- Looks at the link. -/
def look (i : Nat) (w : Watch Op) (k : Keeper State Op) : Keeper State Op :=
  if w.stopped then k.leave i w
  else
    let up := k.linkUp T
    let k := k.record (.looked i up)
    if up then
      k.record (.invoked (.watch i) .pump) |>.pump T i { w with seenUp := true } (T.start .pump)
    else if !w.seenUp || k.state == .reconnecting then k.rest i w
    else
      let target := k.endpoint.getD k.config.endpoint
      let w := { w with seenUp := false }
      let k := k.lose i
      if w.episode.isSome then k.setWatch i { w with phase := .replacing target }
      else k.beginEpisode i w target

/-- Reports an episode that was aborted to the watch that waited for its end. A process numbers all
its tasks, and the text has the number of this one; a count of what the keeper has begun stands for
it here. -/
def reportAborted (label : String) (w : Watch Op) (k : Keeper State Op) : Keeper State Op :=
  match w.episode.bind (k.episodes[·]?) with
  | some { phase := .aborted, .. } =>
    let task := k.watches.length + k.episodes.length
    k.log .warn .watch s!"{label} ended abnormally: task {task} was cancelled"
  | _ => k

/-- Goes on with a watch from where it waits. -/
def resumeWatch (i : Nat) (k : Keeper State Op) : Keeper State Op :=
  match k.watches[i]? with
  | none => k
  | some w =>
    match w.phase with
    | .looking => k.look T i w
    | .pumping op => k.pump T i w op
    | .replacing target =>
      k.reportAborted "Previous reconnect loop" w |>.beginEpisode i w target
    | .resting _ => if w.stopped then k.leave i w else k.look T i w
    | .leaving =>
      k.reportAborted "Reconnect loop" w |>.setWatch i { w with phase := .ended }
    | .ended | .aborted => k

/-- Whether a watch can go on. -/
def watchReady (k : Keeper State Op) (w : Watch Op) : Bool :=
  match w.phase with
  | .looking => true
  | .pumping op => T.ready op k.now k.transport
  | .replacing _ | .leaving => w.episode.all k.episodeOver
  | .resting wake => w.stopped || wake ≤ k.now
  | .ended | .aborted => false

/-- The instant that a watch waits for. -/
def Watch.due (T : Transport State Op) (w : Watch Op) : Option Nat :=
  match w.phase with
  | .pumping op => T.due op
  | .resting wake => some wake
  | _ => none

end SessionKeeper.Keeper

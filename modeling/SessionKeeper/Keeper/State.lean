import SessionKeeper.Keeper.Transport
import SessionKeeper.LinkConfig
import SessionKeeper.Notice
import SessionKeeper.Json.Notice

/-!
# The state of a keeper

A keeper owns one connection. Each session has a *watch*, which looks at the link at every tick and
moves inbound messages into the queue, and an *episode* of reconnecting for each loss that the watch
sees; front-ends make *calls*. Watches, episodes and calls run beside one another, so each is kept
with the point at which it waits. What happened is written into `history`, newest first.
-/

namespace SessionKeeper

/-- Where a watch waits. -/
inductive WatchPhase (Op : Type)
  /-- About to look at the link. -/
  | looking
  | pumping (op : Op)
  /-- For the previous episode to end before the next one, to `target`, begins. -/
  | replacing (target : Endpoint)
  | resting (wake : Nat)
  /-- For its last episode to end. -/
  | leaving
  | ended
  | aborted

structure Watch (Op : Type) where
  /-- Whether the stop signal of the session is raised. -/
  stopped : Bool := false
  phase : WatchPhase Op := .looking
  /-- Whether the link was up since the last episode began. -/
  seenUp : Bool := false
  /-- The last episode that the watch began. -/
  episode : Option Nat := none
  /-- The episode that ends with the session. -/
  abortable : Option Nat := none

/-- Where an episode waits, or how it ended. -/
inductive EpisodePhase (Op : Type)
  | starting
  | dialing (op : Op)
  /-- Closing a link that came up after the stop. -/
  | closing (op : Op)
  | resting (wake : Nat)
  | succeeded
  | timedOut
  | stopped
  | aborted

structure Episode (Op : Type) where
  /-- The watch that began it. -/
  watch : Nat
  target : Endpoint
  since : Nat
  attempts : Nat := 0
  phase : EpisodePhase Op := .starting

/-- Why a session is being stopped. -/
inductive Ending
  | disconnect
  | cleanup
  deriving DecidableEq, Repr

/-- What a front-end calls. -/
inductive CallRequest
  | connect (host : Option String) (port : Option UInt16)
  | disconnect
  | cleanup
  | send (payload : String)
  | messages
  deriving DecidableEq, Repr

inductive Answer
  | outcome (o : Outcome)
  | done
  | messages (l : List String)
  deriving DecidableEq, Repr

/-- Where a call waits, or what it answered. -/
inductive CallPhase (Op : Type)
  /-- Made, and yet to run. -/
  | opened (request : CallRequest)
  | dialing (target : Endpoint) (op : Op)
  /-- The connection is recorded; a watch is yet to be ensured. -/
  | recorded (target : Endpoint)
  /-- About to take the session out of its slot. -/
  | claiming (ending : Ending)
  /-- For the watch to end, until a deadline. -/
  | joining (ending : Ending) (watch deadline : Nat)
  | closing (ending : Ending) (op : Op)
  | sending (op : Op)
  | answered (answer : Answer)

/-- Who acts. -/
inductive Actor
  | watch (i : Nat)
  | episode (i : Nat)
  | call (i : Nat)
  deriving DecidableEq, Repr

inductive Event
  | logged (record : LogRecord)
  /-- A notice went into the queue. -/
  | noticed (who : Actor) (notice : Notice)
  /-- Inbound messages went into the queue. -/
  | forwarded (watch : Nat) (messages : List String)
  | drained (messages : List String)
  /-- The transport handed messages to the sink. -/
  | delivered (messages : List String)
  | invoked (who : Actor) (request : Request)
  | returned (who : Actor) (result : Result)
  | looked (watch : Nat) (up : Bool)
  | stateSet (who : Actor) (state : LinkState)
  | watchBegan (watch : Nat)
  | episodeBegan (episode : Nat)
  | stopRaised (watch : Nat)
  | called (call : Nat) (request : CallRequest)
  | answered (call : Nat) (answer : Answer)

structure Keeper (State Op : Type) where
  config : LinkConfig
  transport : State
  /-- Whether the transport is installed. -/
  installed : Bool := false
  /-- The time in milliseconds. -/
  now : Nat := 0
  state : LinkState := .disconnected
  /-- The endpoint of the last connect call that succeeded. -/
  endpoint : Option Endpoint := none
  queue : List String := []
  /-- What the transport delivered and no watch has moved into the queue. -/
  inbound : List String := []
  /-- The watch of the current session. -/
  slot : Option Nat := none
  /-- The number of sessions begun. -/
  sessions : Nat := 0
  watches : List (Watch Op) := []
  episodes : List (Episode Op) := []
  calls : List (CallPhase Op) := []
  /-- Whether the owner still holds the keeper. -/
  held : Bool := true
  history : List Event := []

variable {State Op : Type}

def WatchPhase.over : WatchPhase Op → Bool
  | ended | aborted => true
  | _ => false

def EpisodePhase.over : EpisodePhase Op → Bool
  | succeeded | timedOut | stopped | aborted => true
  | _ => false

def CallPhase.answer? : CallPhase Op → Option Answer
  | answered a => some a
  | _ => none

namespace Keeper

def record (e : Event) (k : Keeper State Op) : Keeper State Op :=
  { k with history := e :: k.history }

def log (level : LogLevel) (source : LogSource) (text : String) (k : Keeper State Op) :
    Keeper State Op :=
  k.record (.logged ⟨level, source, text⟩)

/-- What has been logged, oldest first. -/
def logged (k : Keeper State Op) : List LogRecord :=
  k.history.foldl (fun l e => match e with | .logged r => r :: l | _ => l) []

def setWatch (i : Nat) (w : Watch Op) (k : Keeper State Op) : Keeper State Op :=
  { k with watches := k.watches.set i w }

def setEpisode (i : Nat) (e : Episode Op) (k : Keeper State Op) : Keeper State Op :=
  { k with episodes := k.episodes.set i e }

def setCall (i : Nat) (p : CallPhase Op) (k : Keeper State Op) : Keeper State Op :=
  { k with calls := k.calls.set i p }

def setState (who : Actor) (s : LinkState) (k : Keeper State Op) : Keeper State Op :=
  { k with state := s }.record (.stateSet who s)

/-- Puts a notice into the queue. -/
def notify (who : Actor) (n : Notice) (k : Keeper State Op) : Keeper State Op :=
  { k with queue := k.queue ++ [n.message] }.record (.noticed who n)

/-- Moves everything delivered into the queue. -/
def forward (i : Nat) (k : Keeper State Op) : Keeper State Op :=
  if k.inbound.isEmpty then k
  else { k with queue := k.queue ++ k.inbound, inbound := [] }.record (.forwarded i k.inbound)

/-- Takes everything out of the queue. -/
def takeQueue (k : Keeper State Op) : List String × Keeper State Op :=
  (k.queue, { k with queue := [] }.record (.drained k.queue))

/-- Whether the stop signal of a session is raised. -/
def isStopped (i : Nat) (k : Keeper State Op) : Bool :=
  (k.watches[i]?.map (·.stopped)).getD false

def watchOver (i : Nat) (k : Keeper State Op) : Bool :=
  (k.watches[i]?.map (·.phase.over)).getD true

def episodeOver (i : Nat) (k : Keeper State Op) : Bool :=
  (k.episodes[i]?.map (·.phase.over)).getD true

/-- Whether the current session has a watch that has not ended. -/
def isPolling (k : Keeper State Op) : Bool :=
  (k.slot.map fun i => !k.watchOver i).getD false

variable (T : Transport State Op)

/-- Whether the link is up as far as the transport tells: a fault counts as down. -/
def linkUp (k : Keeper State Op) : Bool :=
  match T.isUp k.transport with
  | .ok up => up
  | .error _ => false

/-- The ground truth about the connection: without a transport it is down. -/
def isConnected (k : Keeper State Op) : Bool := k.installed && k.linkUp T

/-- Gives an operation its turn on behalf of `who`. -/
def operate (who : Actor) (op : Op) (k : Keeper State Op) : Keeper State Op × Progress Op :=
  let turn := T.run op k.now k.transport
  let k := { k with transport := turn.state, inbound := k.inbound ++ turn.delivered }
  let k := if turn.delivered.isEmpty then k else k.record (.delivered turn.delivered)
  let k := turn.log.foldl (fun k r => k.record (.logged r)) k
  match turn.progress with
  | .pending op => (k, .pending op)
  | .done r => (k.record (.returned who r), .done r)

end Keeper

end SessionKeeper

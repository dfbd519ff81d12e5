import SessionKeeper.Clock

/-!
# Stop signals

A stop signal is raised once and for all. A wait on it ends when the signal is raised, or after a
duration; it is told whether the signal is raised then. Signals have handles, and a clone is another
handle on the same signal. A raise can also be left to a timer.

A wait looks at its signal when it begins, and once more when it goes to sleep. It is woken when its
time is over, or when its signal has been raised more often than it has seen. Between two turns of a
wait anything may happen; a run is any order of such steps in which time does not pass while a wait
can go on or a timer is due, and passes no further than to the next instant that one of them stands
for.
-/

namespace SessionKeeper

structure StopFlag where
  /-- The instant at which it was first raised. -/
  raised : Option Nat := none
  /-- How often it has been raised. -/
  count : Nat := 0
  deriving DecidableEq, Repr

/-- A signal that is raised once more; only the first time counts. -/
def StopFlag.raise (now : Nat) (f : StopFlag) : StopFlag where
  raised := f.raised.or (some now)
  count := f.count + 1

inductive WaitPhase
  /-- It has just begun. -/
  | begun
  /-- It has found its signal down, and is about to go to sleep. -/
  | looked
  | asleep (due : Nat)
  /-- It has ended and has been told whether its signal was raised. -/
  | ended (instant : Nat) (raised : Bool)
  deriving DecidableEq, Repr

/-- A wait on the signal of a handle. -/
structure StopWait where
  handle : Nat
  duration : Nat
  /-- How many raises of its signal it has seen. -/
  seen : Nat
  phase : WaitPhase := .begun
  deriving DecidableEq, Repr

namespace StopWait

/-- The instant at which a wait ended, and what it was told. -/
def outcome? (w : StopWait) : Option (Nat × Bool) :=
  match w.phase with
  | .ended instant raised => some (instant, raised)
  | .begun | .looked | .asleep _ => none

/-- The instant up to which a wait sleeps. -/
def due? (w : StopWait) : Option Nat :=
  match w.phase with
  | .asleep due => some due
  | .begun | .looked | .ended _ _ => none

end StopWait

structure StopBoard where
  now : Nat := 0
  signals : List StopFlag := []
  /-- The signal of each handle. -/
  handles : List Nat := []
  /-- Raises to come: when, and by which handle. -/
  timers : List (Nat × Nat) := []
  waits : List StopWait := []
  deriving DecidableEq, Repr

namespace StopBoard

/-- One signal with one handle. -/
def single : StopBoard := { signals := [{}], handles := [0] }

/-- How a signal stands. -/
def flag (b : StopBoard) (signal : Nat) : StopFlag := (b.signals[signal]?).getD {}

/-- How the signal of a handle stands. -/
def flagOf (b : StopBoard) (handle : Nat) : StopFlag :=
  match b.handles[handle]? with
  | some s => b.flag s
  | none => {}

def isRaised (b : StopBoard) (handle : Nat) : Bool := (b.flagOf handle).raised.isSome

/-- Raises the signal of a handle. -/
def raise (b : StopBoard) (handle : Nat) : StopBoard :=
  match b.handles[handle]? with
  | some s => { b with signals := b.signals.modify s (StopFlag.raise b.now) }
  | none => b

def clone (b : StopBoard) (handle : Nat) : StopBoard :=
  match b.handles[handle]? with
  | some s => { b with handles := b.handles ++ [s] }
  | none => b

/-- Adds a signal with a handle of its own. -/
def fresh (b : StopBoard) : StopBoard :=
  { b with signals := b.signals ++ [{}], handles := b.handles ++ [b.signals.length] }

/-- Leaves a raise to a timer. -/
def raiseAfter (b : StopBoard) (handle ms : Nat) : StopBoard :=
  { b with timers := b.timers ++ [(wake b.now ms, handle)] }

/-- Begins a wait. -/
def wait (b : StopBoard) (handle ms : Nat) : StopBoard :=
  { b with
    waits := b.waits ++ [{ handle, duration := ms, seen := (b.flagOf handle).count }] }

/-- A wait after a look at its signal, and at the clock if it is to sleep until `due`. -/
def rest (b : StopBoard) (w : StopWait) (due : Nat) : StopWait :=
  let w := { w with seen := (b.flagOf w.handle).count }
  if b.isRaised w.handle then { w with phase := .ended b.now true }
  else if due ≤ b.now then { w with phase := .ended b.now false }
  else { w with phase := .asleep due }

/-- A wait that goes on from where it is. -/
def turn (b : StopBoard) (w : StopWait) : StopWait :=
  match w.phase with
  | .begun =>
    let w := { w with seen := (b.flagOf w.handle).count }
    if b.isRaised w.handle then { w with phase := .ended b.now true }
    else { w with phase := .looked }
  | .looked => b.rest w (wake b.now w.duration)
  | .asleep due => b.rest w due
  | .ended _ _ => w

/-- Whether a wait can go on. -/
def waitReady (b : StopBoard) (w : StopWait) : Bool :=
  match w.phase with
  | .begun | .looked => true
  | .asleep due => w.seen != (b.flagOf w.handle).count || due ≤ b.now
  | .ended _ _ => false

/-- Whether the wait of a number can go on. -/
def ready (b : StopBoard) (w : Nat) : Bool := b.waits[w]?.any b.waitReady

/-- How the wait of a number ended. -/
def outcome (b : StopBoard) (w : Nat) : Option (Nat × Bool) := b.waits[w]?.bind StopWait.outcome?

/-- The instants that timers and sleeping waits stand for. -/
def dues (b : StopBoard) : List Nat := b.timers.map (·.1) ++ b.waits.filterMap StopWait.due?

/-- Whether no wait can go on and no timer is due. -/
def settled (b : StopBoard) : Bool :=
  b.waits.all (fun w => !b.waitReady w) && b.timers.all fun t => b.now < t.1

/-- What may happen to signals and waits. -/
inductive Step
  | raise (handle : Nat)
  | clone (handle : Nat)
  | fresh
  | wait (handle ms : Nat)
  | raiseAfter (handle ms : Nat)
  /-- A timer that is due raises its signal. -/
  | fire (timer : Nat)
  /-- A wait that can go on does. -/
  | resume (wait : Nat)
  | pass (ms : Nat)
  deriving DecidableEq, Repr

/-- What comes of a step, if it can be taken. -/
def next? (b : StopBoard) : Step → Option StopBoard
  | .raise h => if h < b.handles.length then some (b.raise h) else none
  | .clone h => if h < b.handles.length then some (b.clone h) else none
  | .fresh => some b.fresh
  | .wait h ms => if h < b.handles.length then some (b.wait h ms) else none
  | .raiseAfter h ms => if h < b.handles.length then some (b.raiseAfter h ms) else none
  | .fire i =>
    match b.timers[i]? with
    | some t =>
      if t.1 ≤ b.now then some ({ b with timers := b.timers.eraseIdx i }.raise t.2) else none
    | none => none
  | .resume i =>
    match b.waits[i]? with
    | some w => if b.waitReady w then some { b with waits := b.waits.set i (b.turn w) } else none
    | none => none
  | .pass ms =>
    if b.settled && b.dues.all (b.now + ms ≤ ·) then some { b with now := b.now + ms } else none

/-- Steps that lead from one board to another. -/
inductive Runs : StopBoard → List Step → StopBoard → Prop
  | nil (b) : Runs b [] b
  | cons {b b' b'' s ss} : b.next? s = some b' → Runs b' ss b'' → Runs b (s :: ss) b''

/-- The first timer that is due, or else the first wait that can go on. -/
def nextTurn? (b : StopBoard) : Option Step :=
  match b.timers.findIdx? (fun t => t.1 ≤ b.now) with
  | some i => some (.fire i)
  | none => (b.waits.findIdx? b.waitReady).map .resume

/-- Lets timers and waits have a number of turns. -/
def settleIn : Nat → StopBoard → StopBoard
  | 0, b => b
  | turns + 1, b =>
    match b.nextTurn?.bind b.next? with
    | none => b
    | some b' => settleIn turns b'

/-- Lets every timer that is due raise its signal, and every wait go on until it sleeps or ends,
which takes it three turns at most. -/
def settle (b : StopBoard) : StopBoard := b.settleIn (b.timers.length + 3 * b.waits.length)

/-- Lets time pass until a later instant, and everybody go on then. -/
def advance (b : StopBoard) (t : Nat) : StopBoard := { b with now := max t (b.now + 1) }.settle

/-- Lets time pass until `t`, settling at every instant that something is due. -/
def passIn (t : Nat) : Nat → StopBoard → StopBoard
  | 0, b => b
  | turns + 1, b =>
    if t ≤ b.now then b else passIn t turns (b.advance (min t ((b.dues.min?).getD t)))

def passTo (b : StopBoard) (t : Nat) : StopBoard := b.passIn t (t - b.now)

/-- Lets time pass until the wait of a number ends. -/
def awaitIn (w : Nat) : Nat → StopBoard → StopBoard
  | 0, b => b
  | turns + 1, b =>
    if (b.outcome w).isSome then b
    else
      match b.dues.min? with
      | none => b
      | some next => awaitIn w turns (b.advance next)

inductive Action
  | raise (handle : Nat)
  | isRaised (handle : Nat)
  | wait (handle ms : Nat)
  | sleep (ms : Nat)
  | raiseAfter (handle ms : Nat)
  | clone (handle : Nat)
  | fresh
  deriving DecidableEq, Repr

/-- What an action is answered with. -/
inductive Reply
  | nothing
  | bool (b : Bool)
  | handle (n : Nat)
  deriving DecidableEq, Repr

/-- Takes an action; a wait and a sleep last until they end. -/
def act (b : StopBoard) : Action → Reply × StopBoard
  | .raise h => (.nothing, (b.raise h).settle)
  | .isRaised h => (.bool (b.isRaised h), b)
  | .wait h ms =>
    let b' := (b.wait h ms).settle.awaitIn b.waits.length (ms + 1)
    (((b'.outcome b.waits.length).map fun o => .bool o.2).getD .nothing, b')
  | .sleep ms => (.nothing, b.passTo (wake b.now ms))
  | .raiseAfter h ms => (.nothing, (b.raiseAfter h ms).settle)
  | .clone h => (.handle b.handles.length, (b.clone h).settle)
  | .fresh => (.handle b.handles.length, b.fresh.settle)

/-- Whether the signal of each handle is raised. -/
def view (b : StopBoard) : List Bool := (List.range b.handles.length).map b.isRaised

end StopBoard

end SessionKeeper

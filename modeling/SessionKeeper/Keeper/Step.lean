import SessionKeeper.Keeper.Call

/-!
# Steps of a keeper

A run of a keeper is a sequence of steps: somebody makes a call, an actor that can go on does, time
passes, the transport changes by itself, or the owner lets the keeper go. Any order of steps is a
run. `Runs` relates a keeper to what a list of steps makes of it.
-/

namespace SessionKeeper

/-- What may happen to a keeper. -/
inductive Step (State : Type)
  | call (r : CallRequest)
  | resume (a : Actor)
  | pass (ms : Nat)
  /-- The transport is found in another state. -/
  | disturb (s : State)
  | drop

namespace Keeper

variable {State Op : Type} (T : Transport State Op)

/-- Whether an actor can go on. -/
def ready (k : Keeper State Op) : Actor → Bool
  | .watch i => k.watches[i]?.any (k.watchReady T)
  | .episode i => k.episodes[i]?.any (k.episodeReady T)
  | .call i => k.calls[i]?.any (k.callReady T)

/-- Lets an actor go on until it next waits. -/
def resume (k : Keeper State Op) : Actor → Keeper State Op
  | .watch i => k.resumeWatch T i
  | .episode i => k.resumeEpisode T i
  | .call i => k.resumeCall T i

/-- The keeper after a step, if the step can be taken. -/
def next? (k : Keeper State Op) : Step State → Option (Keeper State Op)
  | .call r => if k.held then some (k.call r) else none
  | .resume a => if k.ready T a then some (k.resume T a) else none
  | .pass ms => some { k with now := k.now + ms }
  | .disturb s => some { k with transport := s }
  | .drop => if k.held then some (k.drop T) else none

/-- Steps that lead from one keeper to another. -/
inductive Runs : Keeper State Op → List (Step State) → Keeper State Op → Prop
  | nil (k) : Runs k [] k
  | cons {k k' k'' s ss} : k.next? T s = some k' → Runs k' ss k'' → Runs k (s :: ss) k''

/-- All actors: episodes, watches and calls, each in the order in which they began. -/
def actors (k : Keeper State Op) : List Actor :=
  (List.range k.episodes.length).map .episode ++ (List.range k.watches.length).map .watch
    ++ (List.range k.calls.length).map .call

/-- Whether no actor can go on. -/
def settled (k : Keeper State Op) : Bool := k.actors.all fun a => !k.ready T a

/-- The first actor that can go on. -/
def nextReady? (k : Keeper State Op) : Option Actor :=
  match k.episodes.findIdx? (k.episodeReady T) with
  | some i => some (.episode i)
  | none =>
    match k.watches.findIdx? (k.watchReady T) with
    | some i => some (.watch i)
    | none => (k.calls.findIdx? (k.callReady T)).map .call

/-- Whether no call waits. -/
def idle (k : Keeper State Op) : Bool := k.calls.all fun c => c.answer?.isSome

/-- The instants that actors wait for. -/
def dues (k : Keeper State Op) : List Nat :=
  k.episodes.filterMap (Episode.due T) ++ k.watches.filterMap (Watch.due T)
    ++ k.calls.filterMap (CallPhase.due T)

/-- The next instant that an actor waits for. -/
def nextDue (k : Keeper State Op) : Option Nat := (k.dues T).min?

end Keeper

end SessionKeeper

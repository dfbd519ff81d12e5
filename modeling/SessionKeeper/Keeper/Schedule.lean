import SessionKeeper.Keeper.Step

/-!
# Runs on time

A keeper runs on time if everything that can go on does before time passes, and time passes no
further than to the next instant that somebody waits for. Here each actor in turn goes on until it
waits. All functions count down a number of turns, since actors that never wait would take one after
the other at one instant.
-/

namespace SessionKeeper.Keeper

variable {State Op : Type} (T : Transport State Op)

/-- More turns than any run takes in which actors do wait. -/
def patience : Nat := 1000000000

/-- Lets one actor go on until it waits. -/
def runActor (a : Actor) : Nat → Keeper State Op → Keeper State Op
  | 0, k => k
  | turns + 1, k => if k.ready T a then runActor a turns (k.resume T a) else k

/-- Lets every actor go on until all wait. -/
def settleIn : Nat → Keeper State Op → Keeper State Op
  | 0, k => k
  | turns + 1, k =>
    match k.nextReady? T with
    | none => k
    | some a => settleIn turns (k.runActor T a patience)

def settle (k : Keeper State Op) : Keeper State Op := k.settleIn T patience

/-- Lets time pass until `t`, settling at every instant that an actor waits for. -/
def passIn (t : Nat) : Nat → Keeper State Op → Keeper State Op
  | 0, k => k
  | turns + 1, k =>
    if t ≤ k.now then k
    else
      let next := min t ((k.nextDue T).getD t)
      passIn t turns ({ k with now := max next (k.now + 1) }.settle T)

/-- Lets time pass until `t`. -/
def passTo (t : Nat) (k : Keeper State Op) : Keeper State Op := k.passIn T t (t - k.now)

/-- Lets everybody go on, and time pass, until a call has answered. -/
def awaitIn (c : Nat) : Nat → Keeper State Op → Keeper State Op
  | 0, k => k
  | turns + 1, k =>
    match k.calls[c]? with
    | none | some (.answered _) => k
    | some _ =>
      let k := (k.runActor T (.call c) patience).settle T
      match k.calls[c]?, k.nextDue T with
      | some (.answered _), _ => k
      | _, none => k
      | _, some next => awaitIn c turns ({ k with now := max next (k.now + 1) }.settle T)

/-- Lets everybody go on, and time pass, until a call has answered; its answer. -/
def await (c : Nat) (k : Keeper State Op) : Keeper State Op × Option Answer :=
  let k := k.awaitIn T c patience
  (k, k.calls[c]?.bind CallPhase.answer?)

/-- Makes a call and waits for its answer. -/
def perform (r : CallRequest) (k : Keeper State Op) : Keeper State Op × Option Answer :=
  (k.call r).await T k.calls.length

end SessionKeeper.Keeper

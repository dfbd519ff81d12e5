import SessionKeeper.Keeper.Schedule
import SessionKeeper.Launcher.Run

/-!
# Runs of the launcher on time

As for a keeper alone, everything that can go on does before time passes. A run and the call that it
waits for are one: once the call is answered, the run goes on at once, and nobody else gets a turn
until it waits again. Of several branches that a run may take, a schedule takes the first.
-/

namespace SessionKeeper.Launcher.Run

variable {State Op : Type} (T : Transport State Op)

/-- The step of the run itself that a schedule takes, if there is one. -/
def step? (r : Run State Op) : Option (Run State Op) :=
  match r.awaited? with
  | some c => if (r.answer? c).isSome then some r.proceed else none
  | none =>
    match r.phase with
    | .looping => ([Branch.shutdown, .line, .tick].find? r.open?).map r.take
    | _ => none

/-- Lets the run go on until it waits. -/
def goOnIn : Nat → Run State Op → Run State Op
  | 0, r => r
  | turns + 1, r =>
    let keeper := match r.awaited? with
      | some c => r.keeper.runActor T (.call c) Keeper.patience
      | none => r.keeper
    match { r with keeper }.step? with
    | some r => goOnIn turns r
    | none => { r with keeper }

/-- Gives one actor a turn. The run goes on if its call has been answered in that turn. -/
def giveTurn (a : Actor) (r : Run State Op) : Run State Op :=
  let r := { r with keeper := r.keeper.runActor T a Keeper.patience }
  match r.awaited? with
  | some c => if a = .call c then r.goOnIn T Keeper.patience else r
  | none => r

/-- Lets everybody go on until all wait. -/
def settleIn : Nat → Run State Op → Run State Op
  | 0, r => r
  | turns + 1, r =>
    match r.keeper.nextReady? T with
    | some a => settleIn turns (r.giveTurn T a)
    | none =>
      match r.step? with
      | some r => settleIn turns (r.goOnIn T Keeper.patience)
      | none => r

def settle (r : Run State Op) : Run State Op := r.settleIn T Keeper.patience

/-- The next instant that somebody waits for. -/
def nextDue (r : Run State Op) : Option Nat :=
  match r.phase, r.keeper.nextDue T with
  | .looping, some t => some (min r.tick t)
  | .looping, none => some r.tick
  | _, t => t

/-- Lets time pass until `t` or until the run ends, settling at every instant that somebody waits
for. -/
def passIn (t : Nat) : Nat → Run State Op → Run State Op
  | 0, r => r
  | turns + 1, r =>
    if t ≤ r.keeper.now || r.ending?.isSome then r
    else
      let next := min t ((r.nextDue T).getD t)
      let now := max next (r.keeper.now + 1)
      passIn t turns ({ r with keeper := { r.keeper with now } }.settle T)

def passTo (t : Nat) (r : Run State Op) : Run State Op := r.passIn T t (t - r.keeper.now)

/-- Lets time pass until the run ends. -/
def finishIn : Nat → Run State Op → Run State Op
  | 0, r => r
  | turns + 1, r =>
    match r.ending?, r.nextDue T with
    | none, some next => finishIn turns (r.passTo T (max next (r.keeper.now + 1)))
    | _, _ => r

def finish (r : Run State Op) : Run State Op := (r.settle T).finishIn T Keeper.patience

end SessionKeeper.Launcher.Run

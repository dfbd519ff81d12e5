import SessionKeeper.Launcher.Schedule
import SessionKeeper.Rehearsal.Transport

/-!
# Rehearsals of a launcher

A launcher over a scripted transport runs on time while things happen at set instants, each after
everything due at its instant. When nothing more happens its input is closed.
-/

namespace SessionKeeper.Rehearsal

/-- A run over a scripted transport. -/
abbrev Launch := Launcher.Run Stage Op

inductive Happening
  | cue (c : Cue)
  | input (bytes : List UInt8)
  | endOfInput
  | shutdown (ending : Launcher.Ending)
  /-- Somebody else disconnects. -/
  | disconnect

def happen (r : Launch) : Happening → Launch
  | .cue c => { r with keeper := { r.keeper with transport := r.keeper.transport.cue c } }
  | .input bytes =>
    if r.input.closed then r
    else { r with input := { r.input with arrived := r.input.arrived ++ bytes } }
  | .endOfInput => { r with input := { r.input with closed := true } }
  | .shutdown e => { r with shutdown := r.shutdown.or (some e) }
  | .disconnect => { r with keeper := r.keeper.call .disconnect }

/-- Lets things happen at their instants as long as the run has not ended. -/
def launchThrough (r : Launch) : List (Nat × Happening) → Launch
  | [] => (happen r .endOfInput).finish stage
  | (instant, h) :: rest =>
    let r := r.passTo stage instant
    if r.ending?.isSome then r else launchThrough ((happen r h).settle stage) rest

/-- A run from its beginning to its end; a fault if no run begins. -/
def launch (config : LinkConfig) (setup : List Cue) (console : Launcher.Console)
    (happenings : List (Nat × Happening)) : Except Failure Launch := do
  let k : Keeper Stage Op := { config, transport := setup.foldl Stage.cue {} }
  let k ← k.install stage
  let r := { Launcher.Run.start .tcp k with console }
  return launchThrough (r.settle stage) happenings

end SessionKeeper.Rehearsal

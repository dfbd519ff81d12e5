import SessionKeeper.Keeper.Schedule
import SessionKeeper.Rehearsal.Transport

/-!
# Rehearsals of a session

A keeper over a scripted transport goes through a list of steps on time. After each step everything
that can go on at that instant does, and then the keeper is looked at.
-/

namespace SessionKeeper.Rehearsal

/-- A keeper over a scripted transport. -/
abbrev Player := Keeper Stage Op

inductive SessionStep
  | cue (c : Cue)
  | call (r : CallRequest)
  /-- Makes a call that goes on beside the later steps, and names it. -/
  | start (id : String) (r : CallRequest)
  /-- Waits for the call of a name, which is free again then. -/
  | join (id : String)
  | sleep (ms : Nat)
  | install
  /-- The owner lets the keeper go. -/
  | drop

/-- What a step comes to. -/
inductive StepAnswer
  | nothing
  | answer (a : Answer)
  | installed
  | failed (f : Failure)
  | noSuchCall
  | noKeeper

/-- How a keeper looks after a step. -/
structure View where
  state : LinkState
  up : Bool
  polling : Bool
  sessions : Nat
  endpoint : Option Endpoint

def view (p : Player) : View where
  state := p.state
  up := p.isConnected stage
  polling := p.isPolling
  sessions := p.sessions
  endpoint := p.endpoint

structure StepReport where
  answer : StepAnswer
  time : Nat
  /-- Missing once the owner has let the keeper go. -/
  view : Option View

/-- A keeper and the names of the calls started so far, latest first. -/
structure Scene where
  player : Player
  started : List (String × Nat) := []

def Scene.step (s : Scene) : SessionStep → Scene × StepAnswer
  | .cue c =>
    ({ s with player := { s.player with transport := s.player.transport.cue c } }, .nothing)
  | .sleep ms => ({ s with player := s.player.passTo stage (wake s.player.now ms) }, .nothing)
  | .join id =>
    match s.started.lookup id with
    | none => (s, .noSuchCall)
    | some c =>
      let (p, a) := s.player.await stage c
      ({ player := p, started := s.started.filter (·.1 != id) },
        (a.map StepAnswer.answer).getD .nothing)
  | .call r =>
    if !s.player.held then (s, .noKeeper)
    else
      let (p, a) := s.player.perform stage r
      ({ s with player := p }, (a.map StepAnswer.answer).getD .nothing)
  | .start id r =>
    if !s.player.held then (s, .noKeeper)
    else
      ({ s with player := s.player.call r, started := (id, s.player.calls.length) :: s.started },
        .nothing)
  | .install =>
    if !s.player.held then (s, .noKeeper)
    else
      match s.player.install stage with
      | .ok p => ({ s with player := p }, .installed)
      | .error f => (s, .failed f)
  | .drop => ({ s with player := s.player.drop stage }, .nothing)

/-- Takes the steps in order, and reports each; the reports so far stand in reverse. -/
def Scene.playFrom (reports : List StepReport) (s : Scene) :
    List SessionStep → Scene × List StepReport
  | [] => (s, reports.reverse)
  | x :: r =>
    let (s, a) := s.step x
    let s := { s with player := s.player.settle stage }
    let look := if s.player.held then some (view s.player) else none
    s.playFrom (⟨a, s.player.now, look⟩ :: reports) r

def Scene.play (s : Scene) (steps : List SessionStep) : Scene × List StepReport :=
  s.playFrom [] steps

/-- A keeper at the start of a rehearsal, with the transport installed or not. -/
def opening (config : LinkConfig) (installed : Bool) : Scene :=
  let k : Player := { config, transport := {} }
  if installed then { player := (k.install stage).toOption.getD k } else { player := k }

end SessionKeeper.Rehearsal

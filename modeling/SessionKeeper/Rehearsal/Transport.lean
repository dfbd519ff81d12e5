import SessionKeeper.Keeper.Transport

/-!
# A scripted transport

A transport without a network: attempts to connect follow a script, faults are switched on and off,
and what it was asked to do is written down.
-/

namespace SessionKeeper.Rehearsal

/-- How an attempt to connect goes. -/
inductive Dial
  /-- It ends with a status code, and zero brings the link up. -/
  | code (c : StatusCode)
  /-- It ends with zero, and the link stays as it is. -/
  | phantom
  | fault
  deriving DecidableEq, Repr

structure ScriptedDial where
  /-- How long it takes, if not as long as any other. -/
  delay : Option Nat := none
  dial : Dial
  deriving Repr

/-- The state of a scripted transport. -/
structure Stage where
  up : Bool := false
  script : List ScriptedDial := []
  /-- How an attempt past the end of the script goes. -/
  fallback : ScriptedDial := { dial := .code 0 }
  connectDelay : Nat := 0
  resetOnConnect : Bool := false
  queryFault : Bool := false
  registerFault : Bool := false
  sendFault : Bool := false
  pumpFault : Bool := false
  disconnectFault : Bool := false
  sendCode : StatusCode := 0
  disconnectCode : StatusCode := 0
  pumpCode : Option StatusCode := none
  inbound : List String := []
  hasSink : Bool := false
  /-- The attempts to connect, with their times, latest first. -/
  connects : List (Endpoint × Nat) := []
  disconnects : Nat := 0
  /-- The payloads sent, latest first. -/
  sent : List String := []

/-- An operation: yet to begin, or an attempt that takes until an instant. -/
inductive Op
  | fresh (r : Request)
  | dialing (wake : Nat) (dial : Dial)

/-- How an attempt ends. -/
def Stage.conclude (s : Stage) : Dial → Stage × Result
  | .code c => if c = StatusCode.ok then ({ s with up := true }, .ok c) else (s, .ok c)
  | .phantom => (s, .ok StatusCode.ok)
  | .fault => (s, .error (.broken "mock fault"))

def Stage.turn (s : Stage) (r : Result) (delivered : List String := []) : Turn Stage Op :=
  { state := s, progress := .done r, delivered }

def Stage.concluded (s : Stage) (d : Dial) : Turn Stage Op :=
  let (s, r) := s.conclude d
  s.turn r

/-- Runs an operation at an instant. -/
def Stage.run (s : Stage) (now : Nat) : Op → Turn Stage Op
  | .dialing wake d =>
    if wake ≤ now then s.concluded d else { state := s, progress := .pending (.dialing wake d) }
  | .fresh (.connect target) =>
    let s := { s with connects := (target, now) :: s.connects, up := s.up && !s.resetOnConnect }
    let next := s.script.head?.getD s.fallback
    let s := { s with script := s.script.tail }
    let delay := next.delay.getD s.connectDelay
    if delay = 0 then s.concluded next.dial
    else { state := s, progress := .pending (.dialing (wake now delay) next.dial) }
  | .fresh .disconnect =>
    let s := { s with disconnects := s.disconnects + 1 }
    if s.disconnectFault then s.turn (.error (.broken "disconnect fault"))
    else { s with up := false }.turn (.ok s.disconnectCode)
  | .fresh (.send payload) =>
    if s.sendFault then s.turn (.error (.badArgument "send fault"))
    else if !s.up then s.turn (.ok StatusCode.notConnected)
    else { s with sent := payload :: s.sent }.turn (.ok s.sendCode)
  | .fresh .pump =>
    if !s.up then s.turn (.ok StatusCode.notConnected)
    else
      let delivered := if s.hasSink then s.inbound else []
      let result : Result :=
        if s.pumpFault then .error (.broken "pump fault")
        else .ok (s.pumpCode.getD s.inbound.length)
      { s with inbound := [] }.turn result delivered

/-- The scripted transport. -/
def stage : Transport Stage Op where
  isUp s := if s.queryFault then .error (.broken "query fault") else .ok s.up
  start := .fresh
  ready op now _ := match op with
    | .fresh _ => true
    | .dialing wake _ => wake ≤ now
  run op now s := s.run now op
  due op := match op with
    | .fresh _ => none
    | .dialing wake _ => some wake
  abandon _ s := s
  register s :=
    if s.registerFault then .error (.broken "register fault")
    else if s.hasSink then .error .sinkTaken
    else .ok { s with hasSink := true }

/-- A setting of a scripted transport, by its name. -/
inductive Setting
  | number (name : String) (value : Int)
  | flag (name : String) (value : Bool)
  | pumpCode (value : Option StatusCode)
  | fallback (dial : ScriptedDial)

/-- What happens to a scripted transport from outside. -/
inductive Cue
  | dropLink
  | raiseLink
  | inbound (messages : List String)
  | script (dials : List ScriptedDial)
  | set (setting : Setting)

def Stage.set (s : Stage) : Setting → Stage
  | .pumpCode c => { s with pumpCode := c }
  | .fallback d => { s with fallback := d }
  | .number "connect_delay" n => { s with connectDelay := n.toNat }
  | .number "send_code" n => { s with sendCode := n }
  | .number "disconnect_code" n => { s with disconnectCode := n }
  | .flag "reset_on_connect" b => { s with resetOnConnect := b }
  | .flag "query_fault" b => { s with queryFault := b }
  | .flag "register_fault" b => { s with registerFault := b }
  | .flag "send_fault" b => { s with sendFault := b }
  | .flag "pump_fault" b => { s with pumpFault := b }
  | .flag "disconnect_fault" b => { s with disconnectFault := b }
  | _ => s

def Stage.cue (s : Stage) : Cue → Stage
  | .dropLink => { s with up := false }
  | .raiseLink => { s with up := true }
  | .inbound l => { s with inbound := s.inbound ++ l }
  | .script l => { s with script := s.script ++ l }
  | .set x => s.set x

end SessionKeeper.Rehearsal

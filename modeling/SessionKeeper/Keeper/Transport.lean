import SessionKeeper.Clock
import SessionKeeper.Endpoint
import SessionKeeper.Failure
import SessionKeeper.Log

/-!
# Transports

A transport does the input and output for a keeper. Its operations may take time: each is a value
that is run, turn by turn, until it is done, and that may be abandoned in between. What a turn hands
to the registered sink, and what it logs, comes back with the turn.
-/

namespace SessionKeeper

/-- What a keeper asks of a transport. -/
inductive Request
  | connect (target : Endpoint)
  | disconnect
  | send (payload : String)
  /-- Hand every inbound message that has arrived to the sink. -/
  | pump
  deriving DecidableEq, Repr

/-- What an operation ends with. -/
abbrev Result := Except TransportFault StatusCode

/-- How far an operation has come. -/
inductive Progress (Op : Type)
  | pending (op : Op)
  | done (result : Result)

/-- One turn of an operation. -/
structure Turn (State Op : Type) where
  state : State
  progress : Progress Op
  /-- The messages handed to the sink, in order. -/
  delivered : List String := []
  log : List LogRecord := []

structure Transport (State Op : Type) where
  /-- Whether the link is up. -/
  isUp : State → Except TransportFault Bool
  start : Request → Op
  /-- Whether a pending operation has something to do at an instant. -/
  ready : Op → Nat → State → Bool
  run : Op → Nat → State → Turn State Op
  /-- The instant that a pending operation waits for, if it waits for one. -/
  due : Op → Option Nat
  /-- Gives a pending operation up. -/
  abandon : Op → State → State
  /-- Registers the sink for inbound messages. -/
  register : State → Except TransportFault State

end SessionKeeper

import SessionKeeper.Keeper.Transport
import SessionKeeper.Socket.Framing

/-!
# Links over a network

A socket holds at most one link. Its operations take turns: each draws a ticket and waits in line
until its ticket is the first, and leaves the line when it is done or is given up. What the network
answers is part of the state, so a run may change it between any two turns.
-/

namespace SessionKeeper.Socket

/-- A connection as it shows at this end. -/
structure Wire where
  /-- The bytes that have arrived and are yet to be read. -/
  arrived : List UInt8 := []
  /-- Whether nothing follows them: the peer has closed, or reading fails. -/
  ended : Bool := false
  /-- The bytes written. -/
  written : List UInt8 := []
  /-- How many more bytes can be written now, if there is a bound. -/
  room : Option Nat := none
  /-- Why writing fails, if it does. -/
  broken : Option String := none
  deriving DecidableEq, Repr

/-- What is known about the address of a host. -/
inductive Lookup
  | searching
  | found
  | unknown
  deriving DecidableEq, Repr

/-- What a peer answers to a dial. -/
inductive Dialed
  | ringing
  | refused
  | accepted (wire : Wire)
  deriving DecidableEq, Repr

structure Network where
  lookup : String → Lookup
  dial : Endpoint → Dialed

structure Link where
  /-- The endpoint that was dialed. -/
  peer : Endpoint
  wire : Wire := {}
  /-- The bytes read since the last newline. -/
  pending : List UInt8 := []
  deriving DecidableEq, Repr

end SessionKeeper.Socket

namespace SessionKeeper

structure Socket where
  network : Socket.Network
  link : Option Socket.Link := none
  /-- What a query for the link is answered with. -/
  connected : Bool := false
  /-- The tickets of the operations under way; the first of them has its turn. -/
  line : List Nat := []
  tickets : Nat := 0
  hasSink : Bool := false
  /-- How long a dial may ring, in milliseconds. -/
  dialTimeout : Nat := 5000

namespace Socket

/-- An operation on a socket. -/
inductive Op
  | fresh (r : Request)
  /-- In line for its turn. -/
  | waiting (ticket : Nat) (r : Request)
  | resolving (ticket : Nat) (target : Endpoint)
  | dialing (ticket : Nat) (target : Endpoint) (deadline : Nat)
  | writing (ticket : Nat) (rest : List UInt8)
  deriving DecidableEq, Repr

/-- Gives the link up. -/
def close (s : Socket) : Socket := { s with link := none, connected := false }

/-- Leaves the line. -/
def leave (ticket : Nat) (s : Socket) : Socket := { s with line := s.line.erase ticket }

/-- Ends the operation of a ticket. -/
def finish (ticket : Nat) (code : StatusCode) (s : Socket) (delivered : List String := [])
    (log : List LogRecord := []) : Turn Socket Op :=
  { state := s.leave ticket, progress := .done (.ok code), delivered, log }

def pend (op : Op) (s : Socket) : Turn Socket Op := { state := s, progress := .pending op }

def warning (text : String) : LogRecord := ⟨.warn, .socket, text⟩

/-- Waits for the peer to answer, until a deadline. -/
def dial (ticket : Nat) (target : Endpoint) (deadline now : Nat) (s : Socket) : Turn Socket Op :=
  match s.network.dial target with
  | .accepted wire =>
    { s with link := some { peer := target, wire }, connected := true }.finish ticket StatusCode.ok
  | .refused => s.finish ticket StatusCode.refused
  | .ringing =>
    if deadline ≤ now then s.finish ticket StatusCode.timedOut
    else s.pend (.dialing ticket target deadline)

/-- Waits for the address of the host, and then dials it. -/
def resolve (ticket : Nat) (target : Endpoint) (now : Nat) (s : Socket) : Turn Socket Op :=
  match s.network.lookup target.host with
  | .searching => s.pend (.resolving ticket target)
  | .unknown => s.finish ticket StatusCode.badAddress
  | .found => s.dial ticket target (wake now s.dialTimeout) now

/-- Writes as much as there is room for. -/
def write (ticket : Nat) (bytes : List UInt8) (s : Socket) : Turn Socket Op :=
  match s.link with
  | none => s.finish ticket StatusCode.notConnected
  | some link =>
    match link.wire.broken with
    | some reason =>
      s.close.finish ticket StatusCode.notSent []
        [warning s!"Send failed, dropping connection: {reason}"]
    | none =>
      let fits := min bytes.length (link.wire.room.getD bytes.length)
      let wire := { link.wire with
        written := link.wire.written ++ bytes.take fits
        room := link.wire.room.map (· - fits) }
      let s := { s with link := some { link with wire } }
      if fits = bytes.length then s.finish ticket StatusCode.ok
      else s.pend (.writing ticket (bytes.drop fits))

/-- Reads everything that has arrived and hands the complete lines to the sink. -/
def pump (ticket : Nat) (s : Socket) : Turn Socket Op :=
  match s.link with
  | none => s.finish ticket StatusCode.notConnected
  | some link =>
    let taken := takeLines (link.pending ++ link.wire.arrived)
    let overflow := taken.overflow.toList.map fun n => warning
      s!"⚠️ Receive buffer overflow ({n} bytes without a newline), resetting"
    let count := taken.messages.length
    let dropped := if s.hasSink || count = 0 then []
      else [warning s!"Dropping {count} inbound message(s): no sink registered"]
    let wire := { link.wire with arrived := [] }
    let s := { s with link := some { link with wire, pending := taken.pending } }
    let (s, code) : Socket × StatusCode :=
      if wire.ended then (s.close, StatusCode.refused) else (s, count)
    s.finish ticket code (if s.hasSink then taken.messages else []) (overflow ++ dropped)

/-- Begins what the first ticket in line is for. -/
def begin (ticket : Nat) (r : Request) (now : Nat) (s : Socket) : Turn Socket Op :=
  match r with
  | .connect target => s.resolve ticket target now
  | .disconnect => s.close.finish ticket StatusCode.ok
  | .send payload =>
    if s.link.isNone then s.finish ticket StatusCode.notConnected
    else s.write ticket (frame payload)
  | .pump => s.pump ticket

/-- Draws a ticket, and goes on at once if nobody is in line. -/
def enter (r : Request) (now : Nat) (s : Socket) : Turn Socket Op :=
  let ticket := s.tickets
  let s' := { s with line := s.line ++ [ticket], tickets := ticket + 1 }
  if s.line.isEmpty then s'.begin ticket r now else s'.pend (.waiting ticket r)

/-- Whether a ticket has its turn. -/
def atFront (ticket : Nat) (s : Socket) : Bool := s.line.head? == some ticket

/-- Gives an operation its turn. An attempt to connect ends at once if the link is up. -/
def run (op : Op) (now : Nat) (s : Socket) : Turn Socket Op :=
  match op with
  | .fresh (.connect target) =>
    if s.connected then { state := s, progress := .done (.ok StatusCode.ok) }
    else s.enter (.connect target) now
  | .fresh r => s.enter r now
  | .waiting ticket r => if s.atFront ticket then s.begin ticket r now else s.pend op
  | .resolving ticket target => s.resolve ticket target now
  | .dialing ticket target deadline => s.dial ticket target deadline now
  | .writing ticket rest => s.write ticket rest

/-- Whether an operation has something to do at an instant. -/
def ready (op : Op) (now : Nat) (s : Socket) : Bool :=
  match op with
  | .fresh _ => true
  | .waiting ticket _ => s.atFront ticket
  | .resolving _ target => s.network.lookup target.host ≠ .searching
  | .dialing _ target deadline => s.network.dial target ≠ .ringing || deadline ≤ now
  | .writing _ _ =>
    match s.link with
    | none => true
    | some link => link.wire.broken.isSome || link.wire.room != some 0

/-- The ticket that an operation holds. -/
def Op.ticket? : Op → Option Nat
  | .fresh _ => none
  | .waiting t _ | .resolving t _ | .dialing t _ _ | .writing t _ => some t

/-- Gives an operation up; it leaves the line. -/
def abandon (op : Op) (s : Socket) : Socket :=
  match Op.ticket? op with
  | none => s
  | some t => s.leave t

/-- Registers the sink. -/
def register (s : Socket) : Except TransportFault Socket :=
  if s.hasSink then .error .sinkTaken else .ok { s with hasSink := true }

/-- A socket as a transport. -/
def transport : Transport Socket Op where
  isUp s := .ok s.connected
  start := .fresh
  ready op now s := s.ready op now
  run op now s := s.run op now
  due op := match op with
    | .dialing _ _ deadline => some deadline
    | _ => none
  abandon op s := s.abandon op
  register s := s.register

end Socket

end SessionKeeper

import SessionKeeper.Socket.Link

/-!
# Rehearsals of a socket

A socket goes through a list of steps against one server on the loopback interface. The interface
may be closed: then every dial is refused, whether a server listens or not.
-/

namespace SessionKeeper.Rehearsal

/-- How the server takes a dial. -/
inductive Listening
  | accepting
  | absent
  /-- It lets every dial ring. -/
  | stuck
  deriving DecidableEq, Repr

/-- Whether a host has an address: an empty name and a name with a NUL have none. -/
def resolves (host : String) : Bool := !host.isEmpty && !host.toList.contains (Char.ofNat 0)

/-- A network with nothing but a loopback interface, on which a server listens at one address. -/
def loopback (isOpen : Bool) (listening : Listening) : Socket.Network where
  lookup host := if resolves host then .found else .unknown
  dial target :=
    if !isOpen || (target.host != "127.0.0.1" && target.host != "localhost") then .refused
    else match listening with
      | .accepting => .accepted {}
      | .absent => .refused
      | .stuck => .ringing

inductive SocketStep
  | connect (host : String) (listening : Listening)
  | serverSend (bytes : List UInt8)
  | serverRead
  | serverClose
  | serverReset
  | pump
  | send (payload : String)
  | disconnect
  | register
  | query
  deriving DecidableEq, Repr

inductive SocketAnswer
  | nothing
  | code (c : StatusCode)
  | registered
  | fault (f : TransportFault)
  /-- What the server has read since it was last asked, and whether the link is closed. -/
  | read (text : String) (closed : Bool)

/-- The server's end of the link. -/
structure ServerEnd where
  unread : List UInt8 := []
  closed : Bool := false
  deriving DecidableEq, Repr

/-- A socket between its server and its sink. -/
structure SocketScene where
  isOpen : Bool
  socket : Socket
  now : Nat := 0
  server : Option ServerEnd := none
  /-- Whether the server has closed its end, so that a write brings a reset. -/
  gone : Bool := false
  log : List LogRecord := []

structure SocketReport where
  answer : SocketAnswer
  messages : List String
  up : Bool

namespace SocketScene

/-- Gives an operation its turns until it is done, and lets time pass in between. -/
def finish (op : Socket.Op) : Nat → SocketScene → SocketScene × SocketAnswer × List String
  | 0, s => (s, .nothing, [])
  | turns + 1, s =>
    let turn := s.socket.run op s.now
    let s := { s with socket := turn.state, log := s.log ++ turn.log }
    match turn.progress with
    | .done (.ok c) => (s, .code c, turn.delivered)
    | .done (.error f) => (s, .fault f, turn.delivered)
    | .pending op => finish op turns { s with now := (Socket.transport.due op).getD s.now }

def ask (r : Request) (s : SocketScene) : SocketScene × SocketAnswer × List String :=
  s.finish (.fresh r) 2

def mapWire (f : Socket.Wire → Socket.Wire) (s : SocketScene) : SocketScene :=
  { s with socket := { s.socket with
      link := s.socket.link.map fun l => { l with wire := f l.wire } } }

/-- Hands what was written to the server, and tells it whether the link is closed. -/
def collect (s : SocketScene) : SocketScene :=
  match s.server, s.socket.link with
  | none, _ => s
  | some e, none => { s with server := some { e with closed := true } }
  | some e, some l =>
    { s with server := some { e with unread := e.unread ++ l.wire.written } }.mapWire
      fun w => { w with written := [] }

def step (s : SocketScene) : SocketStep → SocketScene × SocketAnswer × List String
  | .connect host listening =>
    let wasOpen := s.socket.link.isSome
    let s := { s with socket := { s.socket with network := loopback s.isOpen listening } }
    let (s, a) := s.ask (.connect ⟨host, 1⟩)
    let met := !wasOpen && s.socket.link.isSome
    (if met then { s with server := some {}, gone := false } else s, a)
  | .serverSend bytes =>
    (if s.server.isSome then s.mapWire fun w => { w with arrived := w.arrived ++ bytes } else s,
      .nothing, [])
  | .serverRead =>
    match s.server with
    | none => (s, .read "" true, [])
    | some e =>
      ({ s with server := some { e with unread := [] } },
        .read (Text.Utf8.decodeLossy e.unread) e.closed, [])
  | .serverClose =>
    ({ s with server := none, gone := true }.mapWire fun w => { w with ended := true },
      .nothing, [])
  | .serverReset =>
    ({ s with server := none }.mapWire fun w =>
      { w with ended := true, broken := some "Connection reset by peer (os error 104)" },
      .nothing, [])
  | .pump => s.ask .pump
  | .send payload =>
    let (s, a) := s.ask (.send payload)
    (if s.gone then s.mapWire fun w => { w with broken := some "Broken pipe (os error 32)" } else s,
      a)
  | .disconnect => s.ask .disconnect
  | .register =>
    match s.socket.register with
    | .ok socket => ({ s with socket }, .registered, [])
    | .error f => (s, .fault f, [])
  | .query => (s, .nothing, [])

/-- Takes the steps in order and reports each; the reports so far stand in reverse. -/
def playFrom (reports : List SocketReport) (s : SocketScene) :
    List SocketStep → SocketScene × List SocketReport
  | [] => (s, reports.reverse)
  | x :: r =>
    let (s, answer, messages) := s.step x
    playFrom (⟨answer, messages, s.socket.connected⟩ :: reports) s.collect r

def play (s : SocketScene) (steps : List SocketStep) : SocketScene × List SocketReport :=
  s.playFrom [] steps

/-- A socket that is yet to be used. -/
def opening (isOpen hasSink : Bool) (dialTimeout : Nat) : SocketScene where
  isOpen
  socket := { network := loopback isOpen .absent, hasSink, dialTimeout }

end SocketScene

end SessionKeeper.Rehearsal

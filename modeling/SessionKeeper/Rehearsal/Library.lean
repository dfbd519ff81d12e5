import SessionKeeper.Library.Client
import SessionKeeper.Library.Load

/-!
# Rehearsals of a client library

A process loads client libraries from a shelf of files and goes through a list of steps with the
first that it binds: a stand-in that remembers what it was handed, and answers with the codes that
it was told to.
-/

namespace SessionKeeper.Rehearsal

open Library

/-- What the stand-in remembers. -/
structure StandIn where
  host : List UInt8 := []
  port : Int := -1
  last : List UInt8 := []
  up : Bool := false
  connectCode : StatusCode := 0
  sendCode : StatusCode := 0
  disconnectCode : StatusCode := 0
  /-- The texts that wait; a null pointer is none. -/
  inbound : List (Option (List UInt8)) := []

def standIn : Client StandIn where
  connect host port m :=
    (m.connectCode,
      { m with host, port := port.toNat, up := m.up || m.connectCode = StatusCode.ok })
  disconnect m := (m.disconnectCode, { m with up := false })
  send payload m :=
    if m.up then (m.sendCode, { m with last := payload }) else (StatusCode.notConnected, m)
  isConnected m := m.up
  process m :=
    if m.up then (m.inbound.length, m.inbound, { m with inbound := [] })
    else (StatusCode.notConnected, [], m)

/-- The libraries that lack one entry point, by file name. -/
def lacking : List (String × Entry) :=
  [("libclient_no_CONNECT.so", .connect), ("libclient_no_DISCONNECT.so", .disconnect),
    ("libclient_no_SEND.so", .send), ("libclient_no_IS_CONNECTED.so", .isConnected),
    ("libclient_no_PROCESS.so", .process), ("libclient_no_CALLBACK.so", .setCallback)]

/-- What is found at a path on the shelf. -/
def shelf (path : String) : Content :=
  if path = "libclient.so" || path = "../native/libclient.so" then
    .sharedObject (Entry.all.map Entry.symbol)
  else if path = "garbage.so" then .unloadable "invalid ELF header"
  else if path = "empty.so" then .unloadable "file too short"
  else
    match lacking.lookup path with
    | some e => .sharedObject ((Entry.all.filter (· != e)).map Entry.symbol)
    | none => .nothing

inductive LibraryStep
  | load (path : String)
  | register
  | connect (target : Endpoint)
  | send (payload : String)
  | pump
  | disconnect
  | inbound (text : Option (List UInt8))
  | connectCode (c : StatusCode)
  | sendCode (c : StatusCode)
  | disconnectCode (c : StatusCode)
  | link (up : Bool)
  | query

inductive LibraryAnswer
  | nothing
  | loaded
  | registered
  | fault (f : TransportFault)
  | code (c : StatusCode)
  /-- What connecting came to, and the host and port that the library last saw. -/
  | connected (result : Result) (host : String) (port : Int)
  /-- What sending came to, and the text that the library last took. -/
  | sent (result : Result) (last : String)
  | unloaded

/-- A process and the library that it has bound. -/
structure LibraryScene where
  bound : Option (String × Bound StandIn) := none

structure LibraryReport where
  answer : LibraryAnswer
  messages : List String
  /-- Whether the link is up, if a library is bound. -/
  up : Option Bool

namespace LibraryScene

/-- A step with the library that is bound. -/
def drive (b : Bound StandIn) : LibraryStep → Bound StandIn × LibraryAnswer × List String
  | .register =>
    match b.register with
    | .ok b => (b, .registered, [])
    | .error f => (b, .fault f, [])
  | .connect target =>
    let (b, r, l) := ask b (.connect target)
    (b, .connected r (Text.Utf8.decodeLossy b.memory.host) b.memory.port, l)
  | .send payload =>
    let (b, r, l) := ask b (.send payload)
    (b, .sent r (Text.Utf8.decodeLossy b.memory.last), l)
  | .pump => told (ask b .pump)
  | .disconnect => told (ask b .disconnect)
  | .inbound text => ({ b with memory.inbound := b.memory.inbound ++ [text] }, .nothing, [])
  | .connectCode c => ({ b with memory.connectCode := c }, .nothing, [])
  | .sendCode c => ({ b with memory.sendCode := c }, .nothing, [])
  | .disconnectCode c => ({ b with memory.disconnectCode := c }, .nothing, [])
  | .link up => ({ b with memory.up := up }, .nothing, [])
  | .load _ | .query => (b, .nothing, [])
where
  ask (b : Bound StandIn) (r : Request) : Bound StandIn × Result × List String :=
    let turn := standIn.run r b
    match turn.progress with
    | .done r => (turn.state, r, turn.delivered)
    | .pending _ => (turn.state, .ok StatusCode.ok, turn.delivered)
  told (a : Bound StandIn × Result × List String) : Bound StandIn × LibraryAnswer × List String :=
    (a.1, match a.2.1 with | .ok c => .code c | .error f => .fault f, a.2.2)

def step (s : LibraryScene) (x : LibraryStep) : LibraryScene × LibraryAnswer × List String :=
  match x, s.bound with
  | .load path, bound =>
    match load (bound.map (·.1)) path (shelf path) with
    | .ok (path, _) => ({ bound := some (path, { memory := {} }) }, .loaded, [])
    | .error f => (s, .fault f, [])
  | _, none => (s, .unloaded, [])
  | x, some (path, b) =>
    let (b, answer) := drive b x
    ({ bound := some (path, b) }, answer)

/-- Takes the steps in order and reports each; the reports so far stand in reverse. -/
def playFrom (reports : List LibraryReport) (s : LibraryScene) :
    List LibraryStep → List LibraryReport
  | [] => reports.reverse
  | x :: r =>
    let (s, answer, messages) := s.step x
    let up := s.bound.map fun b => standIn.isConnected b.2.memory
    playFrom (⟨answer, messages, up⟩ :: reports) s r

def play (steps : List LibraryStep) : List LibraryReport := playFrom [] {} steps

end LibraryScene

end SessionKeeper.Rehearsal

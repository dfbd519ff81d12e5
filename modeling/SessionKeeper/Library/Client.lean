import SessionKeeper.Keeper.Transport
import SessionKeeper.Text.Quoted
import SessionKeeper.Text.Utf8

/-!
# A client library as a transport

A bound client library keeps one connection of its own. Texts go to it and come from it as bytes
that a NUL ends: an argument with a NUL inside is refused, a text that comes back is read leniently
up to its NUL, and nothing is handed on for a null pointer or an empty text.
-/

namespace SessionKeeper.Library

/-- The functions of a client library over what it remembers. -/
structure Client (Memory : Type) where
  connect : List UInt8 → UInt16 → Memory → StatusCode × Memory
  disconnect : Memory → StatusCode × Memory
  send : List UInt8 → Memory → StatusCode × Memory
  isConnected : Memory → Bool
  /-- The code, and the texts handed to the callback; a null pointer is none. -/
  process : Memory → StatusCode × List (Option (List UInt8)) × Memory

/-- A bound client library. -/
structure Bound (Memory : Type) where
  memory : Memory
  /-- Whether the callback is set, and the sink with it. -/
  hasSink : Bool := false

/-- Whether a text can be handed over. -/
def passable (s : String) : Bool := !s.toList.contains (Char.ofNat 0)

/-- The message of a text that the library hands to the callback. -/
def received (text : Option (List UInt8)) : Option String := do
  let message := Text.Utf8.decodeLossy ((← text).takeWhile (· != 0))
  if message.isEmpty then none else some message

variable {Memory : Type}

/-- One turn of a request: the library answers at once. -/
def Client.run (client : Client Memory) (r : Request) (b : Bound Memory) :
    Turn (Bound Memory) Request :=
  match r with
  | .connect target =>
    if !passable target.host then
      fault (.badArgument s!"host contains NUL: {Text.quoted target.host}")
    else answer (client.connect (Text.Utf8.encode target.host) target.port b.memory)
  | .disconnect => answer (client.disconnect b.memory)
  | .send payload =>
    if !passable payload then fault (.badArgument "payload contains NUL")
    else answer (client.send (Text.Utf8.encode payload) b.memory)
  | .pump =>
    let (code, texts, memory) := client.process b.memory
    { state := { b with memory }
      progress := .done (.ok code)
      delivered := if b.hasSink then texts.filterMap received else [] }
where
  answer (a : StatusCode × Memory) : Turn (Bound Memory) Request :=
    { state := { b with memory := a.2 }, progress := .done (.ok a.1) }
  fault (f : TransportFault) : Turn (Bound Memory) Request :=
    { state := b, progress := .done (.error f) }

/-- Registers the sink by setting the callback. -/
def Bound.register (b : Bound Memory) : Except TransportFault (Bound Memory) :=
  if b.hasSink then .error .sinkTaken else .ok { b with hasSink := true }

def Client.transport (client : Client Memory) : Transport (Bound Memory) Request where
  isUp b := .ok (client.isConnected b.memory)
  start r := r
  ready _ _ _ := true
  run r _ b := client.run r b
  due _ := none
  abandon _ b := b
  register := Bound.register

end SessionKeeper.Library

import SessionKeeper.Json.Printer
import SessionKeeper.Json.Reader
import SessionKeeper.LinkConfig
import SessionKeeper.Notice

/-!
# Outcomes, settings, endpoints and states as JSON

Each is printed with its fields in a fixed order and read from a table in any order, or from a list
in that order. Fields with a default may be missing; others may be added and are passed over.
-/

namespace SessionKeeper

namespace Outcome

def print (o : Outcome) : List Char :=
  Json.printTable (("success", Json.printBool o.success)
    :: (o.message.map fun m => ("message", Json.printText m)).toList)

structure Draft where
  success : Option Bool := none
  message : Option (Option String) := none

def read : Datum → Except Datum.Problem Outcome :=
  Datum.record "struct OperationResult" ["success", "message"]
    (fun (d : Draft) name v => do
      match name with
      | "success" => return { d with success := ← Datum.fill name d.success v.asBool }
      | "message" =>
        return { d with message := ← Datum.fill name d.message (v.asOption Datum.asText) }
      | _ => return d)
    {}
    (fun l d => do return ⟨← Datum.require l "success" d.success, d.message.getD none⟩)

end Outcome

namespace LinkConfig

def print (c : LinkConfig) : List Char :=
  Json.printTable [
    ("host", Json.printText c.host),
    ("port", Json.printNat c.port.toNat),
    ("reconnect_timeout_secs", Json.printNat c.reconnectTimeoutSecs.toNat),
    ("reconnect_interval_secs", Json.printNat c.reconnectIntervalSecs.toNat),
    ("poll_interval_ms", Json.printNat c.pollIntervalMs.toNat),
    ("join_timeout_ms", Json.printNat c.joinTimeoutMs.toNat)]

structure Draft where
  host : Option String := none
  port : Option UInt16 := none
  reconnectTimeoutSecs : Option UInt64 := none
  reconnectIntervalSecs : Option UInt64 := none
  pollIntervalMs : Option UInt64 := none
  joinTimeoutMs : Option UInt64 := none

def Draft.put (d : Draft) (name : String) (v : Datum) : Except Datum.Problem Draft := do
  match name with
  | "host" => return { d with host := ← Datum.fill name d.host v.asText }
  | "port" => return { d with port := ← Datum.fill name d.port v.asUInt16 }
  | "reconnect_timeout_secs" =>
    return { d with reconnectTimeoutSecs := ← Datum.fill name d.reconnectTimeoutSecs v.asUInt64 }
  | "reconnect_interval_secs" =>
    return { d with reconnectIntervalSecs := ← Datum.fill name d.reconnectIntervalSecs v.asUInt64 }
  | "poll_interval_ms" =>
    return { d with pollIntervalMs := ← Datum.fill name d.pollIntervalMs v.asUInt64 }
  | "join_timeout_ms" =>
    return { d with joinTimeoutMs := ← Datum.fill name d.joinTimeoutMs v.asUInt64 }
  | _ => return d

/-- The settings with those of a draft in place of the defaults. -/
def Draft.close (d : Draft) : LinkConfig :=
  let c : LinkConfig := {}
  { host := d.host.getD c.host
    port := d.port.getD c.port
    reconnectTimeoutSecs := d.reconnectTimeoutSecs.getD c.reconnectTimeoutSecs
    reconnectIntervalSecs := d.reconnectIntervalSecs.getD c.reconnectIntervalSecs
    pollIntervalMs := d.pollIntervalMs.getD c.pollIntervalMs
    joinTimeoutMs := d.joinTimeoutMs.getD c.joinTimeoutMs }

def fieldNames : List String :=
  ["host", "port", "reconnect_timeout_secs", "reconnect_interval_secs", "poll_interval_ms",
    "join_timeout_ms"]

def read : Datum → Except Datum.Problem LinkConfig :=
  Datum.record "struct ConnectionConfig" fieldNames Draft.put {} (fun _ d => .ok d.close)

end LinkConfig

namespace Endpoint

def print (e : Endpoint) : List Char :=
  Json.printTable [("host", Json.printText e.host), ("port", Json.printNat e.port.toNat)]

structure Draft where
  host : Option String := none
  port : Option UInt16 := none

def read : Datum → Except Datum.Problem Endpoint :=
  Datum.record "struct Endpoint" ["host", "port"]
    (fun (d : Draft) name v => do
      match name with
      | "host" => return { d with host := ← Datum.fill name d.host v.asText }
      | "port" => return { d with port := ← Datum.fill name d.port v.asUInt16 }
      | _ => return d)
    {}
    (fun l d => do return ⟨← Datum.require l "host" d.host, ← Datum.require l "port" d.port⟩)

end Endpoint

namespace LinkState

def print (s : LinkState) : List Char := Json.printText s.word

/-- Reads a state: its word, or a table with the word as its only key and no value. -/
def read : Datum → Except Datum.Problem LinkState
  | .text w => Datum.variant (all.map fun s => (s.word, s)) w
  | .table [(w, v)] => do
    let s ← Datum.variant (all.map fun s => (s.word, s)) w
    match v with
    | .null => return s
    | d => throw (d.mismatch "unit")
  | .table ((w, v) :: _) => do
    let _ ← Datum.variant (all.map fun s => (s.word, s)) w
    match v with
    | .null => throw .other
    | d => throw (d.mismatch "unit")
  | _ => .error .other

end LinkState

end SessionKeeper

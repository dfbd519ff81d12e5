import SessionKeeper.Json.Printer
import SessionKeeper.Json.Reader
import SessionKeeper.Notice

/-!
# Notices as messages

A notice travels in the envelope that server messages have too: a type, which for notices is
`connection_status`, and a payload tagged with its status.
-/

namespace SessionKeeper

namespace Notice

/-- The type of the envelope of a notice. -/
def envelopeType : String := "connection_status"

/-- The status words, in the order in which they are listed when another one is met. -/
def statusWords : List String := ["reconnecting", "reconnected", "reconnect_failed"]

/-- The fields of a payload after its status. -/
def fields : Notice → List (String × List Char)
  | reconnecting a r t =>
    (a.map fun n => ("attempt", Json.printNat n.toNat)).toList
      ++ (r.map fun n => ("remaining", Json.printNat n.toNat)).toList
      ++ (t.map fun n => ("timeout", Json.printNat n.toNat)).toList
  | reconnected n => [("attempts", Json.printNat n.toNat)]
  | failed reason => [("reason", Json.printText reason)]

def statusWord : Notice → String
  | reconnecting .. => "reconnecting"
  | reconnected _ => "reconnected"
  | failed _ => "reconnect_failed"

/-- A payload as JSON. -/
def payload (n : Notice) : List Char :=
  Json.printTable (("status", Json.printText n.statusWord) :: n.fields)

/-- A notice as it stands in the queue. -/
def message (n : Notice) : String :=
  String.ofList (Json.printTable [("type", Json.printText envelopeType), ("payload", n.payload)])

/-- The fields of a payload that have been read. -/
structure Draft where
  attempt : Option (Option UInt32) := none
  remaining : Option (Option UInt64) := none
  timeout : Option (Option UInt64) := none

def putReconnecting (d : Draft) (name : String) (v : Datum) : Except Datum.Problem Draft := do
  match name with
  | "attempt" =>
    return { d with attempt := ← Datum.fill name d.attempt (v.asOption Datum.asUInt32) }
  | "remaining" =>
    return { d with remaining := ← Datum.fill name d.remaining (v.asOption Datum.asUInt64) }
  | "timeout" =>
    return { d with timeout := ← Datum.fill name d.timeout (v.asOption Datum.asUInt64) }
  | _ => return d

/-- Reads what belongs to a status word: the rest of the table, or of the list, it was found in. -/
def readStatus (word : String) (rest : Datum) : Except Datum.Problem Notice :=
  match word with
  | "reconnecting" =>
    Datum.record "struct variant ConnectionStatus::Reconnecting" ["attempt", "remaining", "timeout"]
      putReconnecting {}
      (fun _ d => .ok (.reconnecting (d.attempt.getD none) (d.remaining.getD none)
        (d.timeout.getD none)))
      rest
  | "reconnected" =>
    Datum.record "struct variant ConnectionStatus::Reconnected" ["attempts"]
      (fun d name v => if name == "attempts" then Datum.fill name d v.asUInt32 else .ok d) none
      (fun l d => do return .reconnected (← Datum.require l "attempts" d))
      rest
  | "reconnect_failed" =>
    Datum.record "struct variant ConnectionStatus::ReconnectFailed" ["reason"]
      (fun d name v => if name == "reason" then Datum.fill name d v.asText else .ok d) none
      (fun l d => do return .failed (← Datum.require l "reason" d))
      rest
  | w => .error (.unknownVariant w statusWords)

/-- Reads a status word. -/
def readWord (d : Datum) : Except Datum.Problem String := do
  let w ← d.asText "variant identifier"
  if statusWords.contains w then return w else throw (.unknownVariant w statusWords)

/-- The first status among entries and the other entries, all of which have to be sound. -/
def splitStatus (depth : Nat) : Option String → List (String × Datum) → List (String × Datum) →
    Except Datum.Problem (String × List (String × Datum))
  | none, _, [] => .error (.missing "status")
  | some w, rest, [] => .ok (w, rest.reverse)
  | found, rest, (n, v) :: r =>
    if n == "status" then
      match found with
      | some _ => .error (.duplicate "status")
      | none => do splitStatus depth (some (← readWord v)) rest r
    else if v.sound depth then splitStatus depth found ((n, v) :: rest) r
    else .error .other

/-- Reads a payload that stands at a depth from which values may be nested `depth` deep. Its parts
are all read, those without a meaning too. -/
def readPayload (depth : Nat) : Datum → Except Datum.Problem Notice
  | .table entries => do
    let (w, rest) ← splitStatus (depth - 1) none [] entries
    readStatus w (.table rest)
  | .list [] => .error (.missing "status")
  | .list (tag :: items) => do
    let w ← readWord tag
    if Datum.soundItems (depth - 1) items then readStatus w (.list items) else .error .other
  | d => .error (d.mismatch "internally tagged enum ConnectionStatus")

/-- Reads an envelope: its type and the notice in it. -/
def readEnvelope (d : Datum) : Except Datum.Problem (String × Notice) :=
  Datum.record "struct StatusEnvelope" ["type", "payload"]
    (fun (t, p) name v => do
      match name with
      | "type" => return (← Datum.fill name t v.asText, p)
      | "payload" => return (t, ← Datum.fill name p (readPayload (Json.depthLimit - 1) v))
      | _ => return (t, p))
    (none, none)
    (fun l (t, p) => do return (← Datum.require l "type" t, ← Datum.require l "payload" p))
    d

/-- The notice that a message is, if it is one. -/
def ofMessage? (message : String) : Option Notice :=
  match Json.decode readEnvelope message with
  | .ok (t, n) => if t == envelopeType then some n else none
  | .error _ => none

end Notice

end SessionKeeper

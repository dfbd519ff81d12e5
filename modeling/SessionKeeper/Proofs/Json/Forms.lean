import SessionKeeper.Json.Forms
import SessionKeeper.Proofs.Json.Printed

/-!
# Outcomes, settings, endpoints and states come back out of their texts

Each prints as a table of its fields, or as a word, and that is read as the entries with the same
names (`reads_print`). The typed reader finds all its fields among them, an outcome without a
message by the default, so the text decodes to the value that was printed (`decode_print`), whatever
characters its texts hold and however great its numbers are.
-/

namespace SessionKeeper

open Json

section Outcomes

/-- What the fields of an outcome are read as. -/
def Outcome.entries (o : Outcome) : List (String × Datum) :=
  ("success", .bool o.success) :: (o.message.map fun m => ("message", Datum.text m)).toList

theorem Outcome.reads_print (o : Outcome) : Reads o.print (.table o.entries) := by
  have hs : Shows ("success", printBool o.success) ("success", .bool o.success) :=
    ⟨rfl, (reads_bool o.success).within⟩
  rcases o with ⟨b, _ | m⟩
  · exact reads_table (.cons hs .nil)
  · have hm : Shows ("message", printText m) ("message", .text m) := ⟨rfl, (reads_text m).within⟩
    exact reads_table (.cons hs (.cons hm .nil))

theorem Outcome.read_entries (o : Outcome) : Outcome.read (.table o.entries) = .ok o := by
  rcases o with ⟨b, _ | m⟩ <;>
    simp [Outcome.read, Outcome.entries, Datum.record, Datum.fill, Datum.asBool, Datum.asOption,
      Datum.asText, Datum.require, bind, Except.bind, pure, Except.pure, Except.map]

end Outcomes

section Settings

/-- What the fields of settings are read as. -/
def LinkConfig.entries (c : LinkConfig) : List (String × Datum) :=
  [("host", .text c.host), ("port", .int c.port.toNat),
    ("reconnect_timeout_secs", .int c.reconnectTimeoutSecs.toNat),
    ("reconnect_interval_secs", .int c.reconnectIntervalSecs.toNat),
    ("poll_interval_ms", .int c.pollIntervalMs.toNat),
    ("join_timeout_ms", .int c.joinTimeoutMs.toNat)]

theorem LinkConfig.reads_print (c : LinkConfig) : Reads c.print (.table c.entries) := by
  refine reads_table ?_
  simp [LinkConfig.entries, Shows, (reads_text c.host).within, reads_uint16, reads_uint64]

theorem LinkConfig.read_entries (c : LinkConfig) : LinkConfig.read (.table c.entries) = .ok c := by
  simp [LinkConfig.read, LinkConfig.entries, Datum.record, LinkConfig.Draft.put,
    LinkConfig.Draft.close, Datum.fill, Datum.asText, asUInt16_int, asUInt64_int, bind,
    Except.bind, pure, Except.pure, Except.map]

end Settings

section Endpoints

/-- What the fields of an endpoint are read as. -/
def Endpoint.entries (e : Endpoint) : List (String × Datum) :=
  [("host", .text e.host), ("port", .int e.port.toNat)]

theorem Endpoint.reads_print (e : Endpoint) : Reads e.print (.table e.entries) := by
  refine reads_table ?_
  simp [Endpoint.entries, Shows, (reads_text e.host).within, reads_uint16]

theorem Endpoint.read_entries (e : Endpoint) : Endpoint.read (.table e.entries) = .ok e := by
  simp [Endpoint.read, Endpoint.entries, Datum.record, Datum.fill, Datum.asText, asUInt16_int,
    Datum.require, bind, Except.bind, pure, Except.pure, Except.map]

end Endpoints

section States

theorem LinkState.reads_print (s : LinkState) : Reads s.print (.text s.word) := reads_text s.word

/-- No two states have the same word, and every state is among those that are looked up. -/
theorem LinkState.read_word (s : LinkState) : LinkState.read (.text s.word) = .ok s := by
  cases s <;> rfl

end States

/-- Every value is found in its text again. -/
theorem decode_print :
    (∀ o : Outcome, decode Outcome.read (String.ofList o.print) = .ok o) ∧
      (∀ c : LinkConfig, decode LinkConfig.read (String.ofList c.print) = .ok c) ∧
      (∀ e : Endpoint, decode Endpoint.read (String.ofList e.print) = .ok e) ∧
      ∀ s : LinkState, decode LinkState.read (String.ofList s.print) = .ok s := by
  refine ⟨fun o => ?_, fun c => ?_, fun e => ?_, fun s => ?_⟩
  · exact decode_of_reads o.reads_print o.read_entries
  · exact decode_of_reads c.reads_print c.read_entries
  · exact decode_of_reads e.reads_print e.read_entries
  · exact decode_of_reads s.reads_print s.read_word

end SessionKeeper

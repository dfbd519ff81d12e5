import SessionKeeper.Json.Notice
import SessionKeeper.Proofs.Json.Printed

/-!
# Notices come back out of their messages

The message of a notice is read as its envelope with all its fields (`reads_envelope`), whatever
fields it has and whatever its reason is, and so the notice is found in it again
(`ofMessage?_message`). No message has a control character in it.
-/

namespace SessionKeeper

namespace Notice

open Json

/-- What the fields of a payload are read as. -/
def entries : Notice → List (String × Datum)
  | reconnecting a r t =>
    (a.map fun n => ("attempt", Datum.int n.toNat)).toList
      ++ (r.map fun n => ("remaining", Datum.int n.toNat)).toList
      ++ (t.map fun n => ("timeout", Datum.int n.toNat)).toList
  | reconnected n => [("attempts", .int n.toNat)]
  | failed reason => [("reason", .text reason)]

section Printing

theorem shows_fields (n : Notice) : List.Forall₂ Shows n.fields n.entries := by
  rcases n with ⟨a, r, t⟩ | n | reason
  · rcases a with _ | a <;> rcases r with _ | r <;> rcases t with _ | t <;>
      simp [fields, entries, Shows, reads_uint64, reads_uint32]
  · simp [fields, entries, Shows, reads_uint32]
  · simp [fields, entries, Shows, (reads_text reason).within]

theorem reads_envelope (n : Notice) :
    Reads (printTable [("type", printText envelopeType), ("payload", n.payload)])
      (.table [("type", .text envelopeType),
        ("payload", .table (("status", .text n.statusWord) :: n.entries))]) := by
  have hp : Reads n.payload (.table (("status", .text n.statusWord) :: n.entries)) :=
    reads_table (.cons ⟨rfl, (reads_text _).within⟩ n.shows_fields)
  exact reads_table (.cons ⟨rfl, (reads_text _).within⟩ (.cons ⟨rfl, hp.within⟩ .nil))

end Printing

section Reading

theorem readStatus_entries (n : Notice) : readStatus n.statusWord (.table n.entries) = .ok n := by
  rcases n with ⟨a, r, t⟩ | n | reason
  · rcases a with _ | a <;> rcases r with _ | r <;> rcases t with _ | t <;>
      simp [statusWord, entries, readStatus, Datum.record, putReconnecting, Datum.fill,
        Datum.asOption, asUInt32_int, asUInt64_int, bind, Except.bind, pure, Except.pure,
        Except.map]
  · simp [statusWord, entries, readStatus, Datum.record, Datum.fill, asUInt32_int, Datum.require,
      bind, Except.bind, pure, Except.pure, Except.map]
  · simp [statusWord, entries, readStatus, Datum.record, Datum.fill, Datum.asText, Datum.require,
      bind, Except.bind, pure, Except.pure, Except.map]

/-- The status stands first, and no other field is named like it. -/
theorem splitStatus_entries (n : Notice) (depth : Nat) :
    splitStatus depth none [] (("status", .text n.statusWord) :: n.entries)
      = .ok (n.statusWord, n.entries) := by
  have hw : readWord (.text n.statusWord) = .ok n.statusWord := by
    rcases n with ⟨_, _, _⟩ | _ | _ <;> rfl
  rcases n with ⟨a, r, t⟩ | n | reason
  · rcases a with _ | a <;> rcases r with _ | r <;> rcases t with _ | t <;>
      simp [splitStatus, hw, entries, Datum.sound, bind, Except.bind]
  · simp [splitStatus, hw, entries, Datum.sound, bind, Except.bind]
  · simp [splitStatus, hw, entries, Datum.sound, bind, Except.bind]

theorem readEnvelope_entries (n : Notice) :
    readEnvelope (.table [("type", .text envelopeType),
        ("payload", .table (("status", .text n.statusWord) :: n.entries))])
      = .ok (envelopeType, n) := by
  simp [readEnvelope, Datum.record, Datum.fill, Datum.asText, Datum.require, readPayload,
    splitStatus_entries, readStatus_entries, bind, Except.bind, pure, Except.pure, Except.map]

theorem read_message (n : Notice) : ofMessage? n.message = some n := by
  rw [ofMessage?, message, decode_of_reads n.reads_envelope n.readEnvelope_entries]
  exact if_pos (beq_self_eq_true envelopeType)

end Reading

section Plainness

theorem plain_payload (n : Notice) : Plain n.payload := by
  refine plain_table fun f hf => ?_
  rcases List.mem_cons.1 hf with rfl | hf
  · exact plain_text n.statusWord
  · rcases n with ⟨a, r, t⟩ | n | reason
    · simp only [fields, List.mem_append, Option.mem_toList, Option.map_eq_some_iff] at hf
      rcases hf with (⟨m, -, rfl⟩ | ⟨m, -, rfl⟩) | ⟨m, -, rfl⟩ <;> exact plain_nat _
    · obtain rfl := List.mem_singleton.1 hf
      exact plain_nat _
    · obtain rfl := List.mem_singleton.1 hf
      exact plain_text _

theorem plain_message (n : Notice) : Plain n.message.toList := by
  rw [message, String.toList_ofList]
  refine plain_table fun f hf => ?_
  rcases List.mem_cons.1 hf with rfl | hf
  · exact plain_text envelopeType
  · obtain rfl := List.mem_singleton.1 hf
    exact n.plain_payload

end Plainness

/-- Every notice is found in its message again, and its message has no control characters. -/
theorem ofMessage?_message (n : Notice) :
    ofMessage? n.message = some n ∧ ∀ c ∈ n.message.toList, 0x20 ≤ c.toNat := by
  constructor
  · exact n.read_message
  · exact n.plain_message

end Notice

end SessionKeeper

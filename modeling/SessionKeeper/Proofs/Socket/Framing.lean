import SessionKeeper.Proofs.Socket.Links
import SessionKeeper.Proofs.Text.Utf8

/-!
# Messages come out of the bytes they are sent as

Bytes are cut at newlines in the same way however they are split up (`segments_append`), so what a
socket has delivered and what it has pending depend only on all the bytes pumped so far, as long as
no unfinished line fills the buffer (`Receives.run`). What is sent goes out as its frame
(`Sends.written`), and the payloads that fit come out of their frames again (`delivered_of_sent`).
-/

namespace SessionKeeper.Socket

open Text.Utf8

section Cutting

variable {a b x : List UInt8}

theorem foldl_push_ended (c : Cut) (e : List (List UInt8)) :
    b.foldl Cut.push { c with ended := c.ended ++ e }
      = { b.foldl Cut.push c with ended := (b.foldl Cut.push c).ended ++ e } := by
  induction b generalizing c with
  | nil => rfl
  | cons y b ih =>
    have hp : Cut.push { c with ended := c.ended ++ e } y
        = { c.push y with ended := (c.push y).ended ++ e } := by
      unfold Cut.push
      split <;> rfl
    rw [List.foldl_cons, hp, ih, List.foldl_cons]

theorem foldl_push_line (h : newline ∉ x) (c : Cut) :
    x.foldl Cut.push c = { c with rest := x.reverse ++ c.rest } := by
  induction x generalizing c with
  | nil => rfl
  | cons y x ih =>
    have hy : y ≠ newline := fun hy => h (by simp [hy])
    rw [List.foldl_cons, Cut.push, if_neg hy, ih fun hx => h (by simp [hx])]
    simp

theorem segments_line (h : newline ∉ x) : segments x = ([], x) := by
  simp [segments, foldl_push_line h]

/-- The bytes up to the first newline are the first segment. -/
theorem segments_cons (h : newline ∉ x) (b : List UInt8) :
    segments (x ++ newline :: b) = (x :: (segments b).1, (segments b).2) := by
  have hb := foldl_push_ended (b := b) {} [x]
  rw [List.nil_append] at hb
  rw [segments, List.foldl_append, foldl_push_line h, List.foldl_cons, Cut.push, if_pos rfl]
  simp [hb, segments]

/-- Bytes are a line that has not ended, or a line, a newline and bytes again. -/
theorem lines_induction {motive : List UInt8 → Prop} (line : ∀ x, newline ∉ x → motive x)
    (cons : ∀ x b, newline ∉ x → motive b → motive (x ++ newline :: b)) (b : List UInt8) :
    motive b := by
  induction hn : b.length using Nat.strong_induction_on generalizing b with
  | _ n ih =>
    by_cases hb : newline ∈ b
    · obtain ⟨x, r, rfl, hx⟩ := List.eq_append_cons_of_mem hb
      refine cons x r hx (ih r.length ?_ r rfl)
      rw [← hn, List.length_append, List.length_cons]
      omega
    · exact line b hb

/-- Bytes may be cut in two places one after the other: what stays pending goes before the rest. -/
theorem segments_append (a b : List UInt8) :
    segments (a ++ b) = ((segments a).1 ++ (segments ((segments a).2 ++ b)).1,
      (segments ((segments a).2 ++ b)).2) := by
  induction a using lines_induction with
  | line x hx => simp [segments_line hx]
  | cons x a hx ih =>
    rw [List.append_assoc, List.cons_append, segments_cons hx, ih, segments_cons hx,
      List.cons_append]

end Cutting

section Frames

variable {p : String} {ps : List String} {w : List UInt8}

/-- A payload that travels as one line. -/
structure Fits (p : String) : Prop where
  nonempty : p ≠ ""
  oneLine : '\n' ∉ p.toList
  unreturned : p.toList.getLast? ≠ some '\r'
  short : (encode p).length < bufferSize

theorem Fits.not_mem (h : Fits p) : newline ∉ encode p := fun hn =>
  h.oneLine (mem_of_mem_encode hn (by decide))

theorem Fits.messageOf (h : Fits p) : messageOf (encode p) = some p := by
  have hd : Text.dropEndWhile (· == '\r') p.toList = p.toList :=
    Text.dropEndWhile_eq_self fun x hx hr => h.unreturned (by rw [hx, beq_iff_eq.1 hr])
  have hn : p.toList ≠ [] := fun hn => h.nonempty (String.toList_eq_nil_iff.1 hn)
  simp [Socket.messageOf, decodeLossy_encode, hd, hn]

theorem segments_frames (h : ∀ p ∈ ps, Fits p) :
    segments (ps.flatMap frame) = (ps.map encode, []) := by
  induction ps with
  | nil => rfl
  | cons p ps ih =>
    have hp : Fits p := h p (by simp)
    rw [List.flatMap_cons, frame, List.append_assoc, List.singleton_append,
      segments_cons hp.not_mem, ih fun q hq => h q (by simp [hq]), List.map_cons]

/-- Wherever frames are cut off, the last line falls short of the buffer. -/
theorem pending_short (h : ∀ p ∈ ps, Fits p) (hw : w <+: ps.flatMap frame) :
    (segments w).2.length < bufferSize := by
  induction ps generalizing w with
  | nil =>
    obtain rfl := List.prefix_nil.1 hw
    decide
  | cons p ps ih =>
    have hp : Fits p := h p (by simp)
    rw [List.flatMap_cons, frame] at hw
    have hf : encode p ++ [newline] <+: encode p ++ [newline] ++ ps.flatMap frame :=
      List.prefix_append _ _
    -- the cut is in the first frame, right after it, or further on
    rcases List.prefix_or_prefix_of_prefix hw hf with hw' | ⟨v, rfl⟩
    · rcases List.prefix_concat_iff.1 hw' with rfl | hw'
      · rw [segments_cons hp.not_mem]
        exact Nat.zero_lt_succ _
      · rw [segments_line fun hn => hp.not_mem (hw'.subset hn)]
        exact hw'.length_le.trans_lt hp.short
    · rw [List.append_assoc, List.singleton_append, segments_cons hp.not_mem]
      exact ih (fun q hq => h q (by simp [hq])) ((List.prefix_append_right_inj _).1 hw)

end Frames

section Receiving

/-- What happens at the receiving end of a link. -/
inductive Arrival
  | read (bytes : List UInt8)
  | pump (now : Nat)

/-- The bytes that come in. -/
def Arrival.bytes : Arrival → List UInt8
  | read bytes => bytes
  | pump _ => []

/-- A socket after bytes have arrived or it has been pumped, and what it delivers to its sink. -/
def receive (s : Socket) : Arrival → Socket × List String
  | .read bytes =>
    ({ s with link := s.link.map fun l =>
      { l with wire := { l.wire with arrived := l.wire.arrived ++ bytes } } }, [])
  | .pump now => ((s.run (.fresh .pump) now).state, (s.run (.fresh .pump) now).delivered)

/-- A socket after all of some arrivals, and all that it delivers. -/
def receiveAll : Socket → List Arrival → Socket × List String
  | s, [] => (s, [])
  | s, x :: xs =>
    let (s', ms) := s.receive x
    let (s'', ms') := s'.receiveAll xs
    (s'', ms ++ ms')

variable {s s' : Socket} {pumped unread : List UInt8} {x : Arrival} {xs : List Arrival}

/-- A socket with a sink and an open link that nobody else uses, of which it has pumped some bytes
and has others still to read. -/
structure Receives (s : Socket) (pumped unread : List UInt8) : Prop where
  idle : s.line = []
  sink : s.hasSink
  link : ∃ l, s.link = some l ∧ l.pending = (segments pumped).2 ∧ l.wire.arrived = unread
    ∧ l.wire.ended = false

/-- The messages in bytes that are received. -/
def messagesOf (bytes : List UInt8) : List String := (segments bytes).1.filterMap messageOf

theorem messagesOf_append (a b : List UInt8) :
    messagesOf (a ++ b) = messagesOf a ++ messagesOf ((segments a).2 ++ b) := by
  rw [messagesOf, segments_append, List.filterMap_append]
  rfl

theorem takeLines_messages (b : List UInt8) : (takeLines b).messages = messagesOf b := by
  unfold takeLines messagesOf
  dsimp only
  split <;> rfl

theorem takeLines_pending (b : List UInt8) : (takeLines b).pending =
    if (segments b).2.length < bufferSize then (segments b).2 else [] := by
  unfold takeLines
  dsimp only
  split <;> rfl

theorem Receives.read (h : s.Receives pumped unread) (bytes : List UInt8) :
    (s.receive (.read bytes)).1.Receives pumped (unread ++ bytes) := by
  obtain ⟨hi, hs, l, hl, hp, rfl, he⟩ := h
  exact ⟨hi, hs, { l with wire := { l.wire with arrived := l.wire.arrived ++ bytes } },
    by simp [receive, hl], hp, rfl, he⟩

/-- A pump delivers the lines that have become complete, and leaves the unfinished one. -/
theorem Receives.pump (h : s.Receives pumped unread) (now : Nat)
    (hb : (segments (pumped ++ unread)).2.length < bufferSize) :
    (s.receive (.pump now)).1.Receives (pumped ++ unread) []
      ∧ messagesOf pumped ++ (s.receive (.pump now)).2 = messagesOf (pumped ++ unread) := by
  obtain ⟨hi, hs, l, hl, hp, rfl, he⟩ := h
  -- to cut what is pending and what is new is to cut all that has come in
  have hcut : (segments (pumped ++ l.wire.arrived)).2
      = (segments (l.pending ++ l.wire.arrived)).2 := by
    rw [segments_append, hp]
  have ht : takeLines (l.pending ++ l.wire.arrived)
      = { messages := messagesOf (l.pending ++ l.wire.arrived)
          pending := (segments (l.pending ++ l.wire.arrived)).2 } := by
    rw [hcut] at hb
    simp only [takeLines, if_pos hb]
    rfl
  have hr : s.receive (.pump now)
      = ({ s with
            tickets := s.tickets + 1
            link := some { l with
              wire := { l.wire with arrived := [] }
              pending := (segments (l.pending ++ l.wire.arrived)).2 } },
          messagesOf (l.pending ++ l.wire.arrived)) := by
    simp [receive, run, enter, hi, begin, Socket.pump, hl, ht, he, hs, finish, leave]
  rw [hr, messagesOf_append pumped, ← hp]
  exact ⟨⟨hi, hs, _, rfl, hcut.symm, rfl, he⟩, rfl⟩

/-- If no unfinished line ever fills the buffer, what has been delivered and what is pending are
those of the bytes pumped so far. -/
theorem Receives.run (xs : List Arrival) (h : s.Receives pumped unread)
    (hb : ∀ w, w <+: pumped ++ unread ++ xs.flatMap Arrival.bytes →
      (segments w).2.length < bufferSize) :
    ∃ pumped' unread', pumped' ++ unread' = pumped ++ unread ++ xs.flatMap Arrival.bytes
      ∧ (s.receiveAll xs).1.Receives pumped' unread'
      ∧ messagesOf pumped ++ (s.receiveAll xs).2 = messagesOf pumped' := by
  induction xs generalizing s pumped unread with
  | nil => exact ⟨pumped, unread, (List.append_nil _).symm, h, List.append_nil _⟩
  | cons x xs ih =>
    cases x with
    | read bytes =>
      have hs : pumped ++ (unread ++ bytes) ++ xs.flatMap Arrival.bytes
          = pumped ++ unread ++ (Arrival.read bytes :: xs).flatMap Arrival.bytes := by
        simp [Arrival.bytes]
      obtain ⟨p, u, he, hr, hm⟩ := ih (h.read bytes) (hs ▸ hb)
      exact ⟨p, u, he.trans hs, hr, hm⟩
    | pump now =>
      obtain ⟨h', hm'⟩ := h.pump now (hb _ (List.prefix_append _ _))
      have hs : pumped ++ unread ++ [] ++ xs.flatMap Arrival.bytes
          = pumped ++ unread ++ (Arrival.pump now :: xs).flatMap Arrival.bytes := by
        simp [Arrival.bytes]
      obtain ⟨p, u, he, hr, hm⟩ := ih h' (hs ▸ hb)
      refine ⟨p, u, he.trans hs, hr, ?_⟩
      rw [receiveAll, ← List.append_assoc, hm', hm]

theorem receiveAll_append (s : Socket) (xs ys : List Arrival) :
    s.receiveAll (xs ++ ys) = (((s.receiveAll xs).1.receiveAll ys).1,
      (s.receiveAll xs).2 ++ ((s.receiveAll xs).1.receiveAll ys).2) := by
  induction xs generalizing s with
  | nil => rfl
  | cons x xs ih => simp [receiveAll, ih]

theorem receiveAll_concat (s : Socket) (xs : List Arrival) (x : Arrival) :
    s.receiveAll (xs ++ [x]) = (((s.receiveAll xs).1.receive x).1,
      (s.receiveAll xs).2 ++ ((s.receiveAll xs).1.receive x).2) := by
  simp [receiveAll_append, receiveAll]

end Receiving

section Sending

/-- An operation is carried on, turn after turn, until it is done with success. -/
inductive Succeeds : Op → Socket → Socket → Prop
  | done {op : Op} {s : Socket} (now : Nat)
    (h : (s.run op now).progress = .done (.ok StatusCode.ok)) : Succeeds op s (s.run op now).state
  | wait {op op' : Op} {s r s' : Socket} (now : Nat) (h : (s.run op now).progress = .pending op')
    (hr : (s.run op now).state.Stirs r) (hs : Succeeds op' r s') : Succeeds op s s'

/-- Payloads are sent with success, one after another. -/
inductive Sends : List String → Socket → Socket → Prop
  | nil {s : Socket} : Sends [] s s
  | cons {p : String} {ps : List String} {s r r' s' : Socket} (h : Succeeds (.fresh (.send p)) s r)
    (hr : r.Stirs r') (hs : Sends ps r' s') : Sends (p :: ps) s s'

/-- The bytes that an operation is to write. -/
def Op.unsent : Op → Option (List UInt8)
  | fresh (.send p) | waiting _ (.send p) => some (frame p)
  | writing _ rest => some rest
  | _ => none

/-- The bytes written on the link that is open. -/
def written (s : Socket) : Option (List UInt8) := s.link.map (·.wire.written)

variable {s s' r : Socket} {op op' : Op} {bytes : List UInt8} {p : String} {ps : List String}

theorem Stirs.refl (s : Socket) : s.Stirs s := by
  refine ⟨s.network, id, fun w => rfl, ?_⟩
  cases hl : s.link <;> simp [← hl]

theorem Stirs.written (h : s.Stirs s') : s'.written = s.written := by
  obtain ⟨n, f, hf, rfl⟩ := h
  cases hl : s.link <;> simp [Socket.written, hl, hf]

/-- A turn of a sending operation writes the first part of what is to be written: all of it if the
operation ends well, and all but what is left for the turns after it. -/
structure Writes (before : Option (List UInt8)) (bytes : List UInt8) (t : Turn Socket Op) :
    Prop where
  pending : ∀ op', t.progress = .pending op' → ∃ first rest, bytes = first ++ rest
    ∧ op'.unsent = some rest ∧ t.state.written = before.map (· ++ first)
  done : t.progress = .done (.ok StatusCode.ok) →
    before.isSome ∧ t.state.written = before.map (· ++ bytes)

theorem writes_of_failure {before : Option (List UInt8)} {ticket : Nat} {code : StatusCode}
    {log : List LogRecord} (h : code ≠ StatusCode.ok) :
    Writes before bytes (s'.finish ticket code [] log) :=
  ⟨fun op' hp => by simp [finish] at hp, fun hd => absurd (by simpa [finish] using hd) h⟩

theorem writes_write (ticket : Nat) : Writes s.written bytes (s.write ticket bytes) := by
  unfold write
  split
  · exact writes_of_failure (by decide)
  · rename_i l hl
    split
    · exact writes_of_failure (by decide)
    · extract_lets fits w wire s'
      split_ifs with hf
      · refine ⟨fun op' hp => by simp [finish] at hp, fun _ => ?_⟩
        simp [Socket.written, hl, finish, leave, s', wire, hf]
      · refine ⟨fun op' hp => ⟨bytes.take fits, bytes.drop fits, (List.take_append_drop _ _).symm,
          ?_, ?_⟩, fun hd => by simp [pend] at hd⟩
        · obtain rfl : Op.writing ticket _ = op' := by simpa [pend] using hp
          rfl
        · simp [Socket.written, hl, pend, s', wire]

theorem writes_begin (ticket now : Nat) :
    Writes s.written (frame p) (s.begin ticket (.send p) now) := by
  rw [begin]
  split_ifs
  · exact writes_of_failure (by decide)
  · exact writes_write ticket

theorem writes_wait (h : op.unsent = some bytes) : Writes s.written bytes (s.pend op) := by
  refine ⟨fun op' hp => ⟨[], bytes, rfl, ?_, by simp [pend]⟩, fun hd => by simp [pend] at hd⟩
  obtain rfl : op = op' := by simpa [pend] using hp
  exact h

theorem writes_run (now : Nat) (h : op.unsent = some bytes) :
    Writes s.written bytes (s.run op now) := by
  rcases op with ⟨_ | _ | p | _⟩ | ⟨t, _ | _ | p | _⟩ | _ | _ | ⟨t, rest⟩ <;> cases h
  · show Writes s.written (frame p) (s.enter (.send p) now)
    rw [enter]
    split_ifs
    · exact writes_begin
        (s := { s with line := s.line ++ [s.tickets], tickets := s.tickets + 1 }) _ now
    · exact writes_wait
        (s := { s with line := s.line ++ [s.tickets], tickets := s.tickets + 1 }) rfl
  · rw [run]
    split_ifs
    · exact writes_begin t now
    · exact writes_wait rfl
  · exact writes_write t

/-- An operation that ends well has written what it was to write, on the link it began with. -/
theorem Succeeds.written (h : Succeeds op s s') (hop : op.unsent = some bytes) :
    s.written.isSome ∧ s'.written = s.written.map (· ++ bytes) := by
  induction h generalizing bytes with
  | done now h => exact (writes_run now hop).done h
  | @wait op op' s r s' now h hr hs ih =>
    obtain ⟨first, rest, rfl, ho, hw⟩ := (writes_run now hop).pending op' h
    obtain ⟨hl, he⟩ := ih ho
    rw [hr.written, hw] at hl he
    cases hs : s.written <;> simp_all

theorem Sends.written (h : Sends ps s s') : s'.written = s.written.map (· ++ ps.flatMap frame) := by
  induction h with
  | nil => simp
  | @cons p ps s r r' s' h hr hs ih =>
    rw [ih, hr.written, (h.written rfl).2, List.flatMap_cons]
    cases s.written <;> simp

/-- Sends on a link that takes every byte end well. -/
theorem sends_of_room {l : Link} (hi : s.line = []) (hl : s.link = some l)
    (hb : l.wire.broken = none) (hr : l.wire.room = none) (ps : List String) :
    ∃ s', Sends ps s s' := by
  induction ps generalizing s l with
  | nil => exact ⟨s, .nil⟩
  | cons p ps ih =>
    let l' : Link := { l with wire := { l.wire with written := l.wire.written ++ frame p } }
    have hrun : s.run (.fresh (.send p)) 0 = finish s.tickets StatusCode.ok
        { s with line := [s.tickets], tickets := s.tickets + 1, link := some l' } := by
      simp [run, enter, hi, begin, write, hl, hb, hr, l']
    obtain ⟨s', hs⟩ := ih (s := (s.run (.fresh (.send p)) 0).state) (l := l')
      (by simp [hrun, finish, leave]) (by rw [hrun]; rfl) hb hr
    exact ⟨s', .cons (.done 0 (by rw [hrun]; rfl)) (Stirs.refl _) hs⟩

/-- Payloads that fit are delivered as they were sent, however their bytes are cut into reads and
pumps, and nothing is left pending. -/
theorem delivered_of_sent {before : List UInt8} {xs : List Arrival} (hf : ∀ p ∈ ps, Fits p)
    (hs : Sends ps s s') (hb : s.written = some before)
    (hw : s'.written = some (before ++ xs.flatMap Arrival.bytes)) (hr : r.Receives [] [])
    (now : Nat) :
    (r.receiveAll (xs ++ [.pump now])).2 = ps
      ∧ ∃ l, (r.receiveAll (xs ++ [.pump now])).1.link = some l ∧ l.pending = []
        ∧ l.wire.arrived = [] := by
  have hx : xs.flatMap Arrival.bytes = ps.flatMap frame := by
    have := hs.written
    rw [hb, hw] at this
    simpa using this
  have hshort : ∀ w, w <+: ps.flatMap frame → (segments w).2.length < bufferSize :=
    fun w hw => pending_short hf hw
  -- the last pump reads what the arrivals have left unread
  obtain ⟨pumped, unread, he, hrun, hm⟩ := hr.run xs (by simpa [hx] using hshort)
  have he' : pumped ++ unread = ps.flatMap frame := by simpa [hx] using he
  obtain ⟨hend, hlast⟩ := hrun.pump now (by rw [he']; exact hshort _ (List.prefix_refl _))
  obtain ⟨-, -, l, hl, hp, ha, -⟩ := hend
  have hps : (ps.map encode).filterMap messageOf = ps := by
    rw [List.filterMap_map]
    exact (List.filterMap_congr fun p hp => (hf p hp).messageOf).trans List.filterMap_some
  rw [receiveAll_concat]
  refine ⟨?_, l, hl, ?_, ha⟩
  · have hm' : (r.receiveAll xs).2 = messagesOf pumped := hm
    rw [hm', hlast, he', messagesOf, segments_frames hf, hps]
  · rw [hp, he', segments_frames hf]

/-- The first read ends inside a character, the second one inside a line. -/
theorem delivered_of_sent_cut :
    ∃ s s' : Socket, Sends ["é", "\r-"] s s' ∧ ∃ r : Socket, r.Receives [] [] ∧
      (r.receiveAll [.read [0xC3], .pump 10, .read [0xA9, 10, 13], .pump 20, .read [45], .read [10],
        .pump 30]).2 = ["é", "\r-"] := by
  have h1 : encode "é" = [0xC3, 0xA9] := by rw [encode_eq]; rfl
  have h2 : encode "\r-" = [13, 45] := by rw [encode_eq]; rfl
  let s : Socket := {
    network := { lookup := fun _ => .found, dial := fun _ => .refused }
    link := some { peer := { host := "127.0.0.1", port := 9000 } }
    hasSink := true }
  have hf : ∀ p ∈ ["é", "\r-"], Fits p := by
    simp only [List.mem_cons, List.not_mem_nil, or_false]
    rintro p (rfl | rfl)
    · exact ⟨by decide, by decide, by decide, by rw [h1]; decide⟩
    · exact ⟨by decide, by decide, by decide, by rw [h2]; decide⟩
  obtain ⟨s', hs⟩ := sends_of_room (s := s) rfl rfl rfl rfl ["é", "\r-"]
  have hr : s.Receives [] [] := ⟨rfl, rfl, _, rfl, rfl, rfl, rfl⟩
  let xs : List Arrival :=
    [.read [0xC3], .pump 10, .read [0xA9, 10, 13], .pump 20, .read [45], .read [10]]
  have hw : s'.written = some ([] ++ xs.flatMap Arrival.bytes) := by
    rw [hs.written]
    simp [Socket.written, s, frame, h1, h2, newline, xs, Arrival.bytes]
  exact ⟨s, s', hs, s, hr, (delivered_of_sent hf hs rfl hw hr 30).1⟩

end Sending

end SessionKeeper.Socket

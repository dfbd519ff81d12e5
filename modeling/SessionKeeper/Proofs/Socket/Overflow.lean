import SessionKeeper.Proofs.Socket.Framing

/-!
# What comes of a line that overflows the receive buffer

When an unfinished line fills the buffer at the end of a pump, what has come of it is dropped, and
whatever comes after that counts as the line. So the receiver keeps all of a line, or an end of it
before which at least a whole buffer was dropped (`Leaves`), and delivers the messages of what it
keeps (`delivered_of_received`). A line that is shorter than the buffer is never cut
(`Leaves.whole`). Of a longer one an end may be delivered (`delivered_of_tail`), and all of it is if
it comes with its newline before the next pump (`delivered_of_burst`).
-/

namespace SessionKeeper.Socket

open Text.Utf8

section Leaves

variable {line kept a b x : List UInt8}

/-- What is left of a line. -/
structure Leaves (line kept : List UInt8) : Prop where
  ending : kept <:+ line
  cut : kept = line ∨ kept.length + bufferSize ≤ line.length

namespace Leaves

theorem refl (line : List UInt8) : Leaves line line := ⟨List.suffix_refl line, .inl rfl⟩

theorem whole (h : Leaves line kept) (hs : line.length < bufferSize) : kept = line :=
  h.cut.resolve_right (by omega)

theorem append (h : Leaves line kept) (x : List UInt8) : Leaves (line ++ x) (kept ++ x) := by
  obtain ⟨d, rfl⟩ := h.ending
  refine ⟨⟨d, by simp⟩, h.cut.imp (fun he => by rw [← he]) fun hl => ?_⟩
  simp only [List.length_append] at hl ⊢
  omega

/-- What has filled the buffer is dropped. -/
theorem drop (h : Leaves line kept) (hb : bufferSize ≤ kept.length) : Leaves line [] := by
  have hle := h.ending.length_le
  exact ⟨List.nil_suffix, .inr (by simp only [List.length_nil]; omega)⟩

/-- What a pump leaves of a line that has not ended. -/
theorem rest (h : Leaves line kept) :
    Leaves line (if kept.length < bufferSize then kept else []) := by
  split
  · exact h
  · exact h.drop (by omega)

end Leaves

theorem newline_notMem_rest (b : List UInt8) : newline ∉ (segments b).2 := by
  induction b using lines_induction with
  | line x hx =>
    rw [segments_line hx]
    exact hx
  | cons x b hx ih =>
    rw [segments_cons hx]
    exact ih

/-- Bytes that come after a line that was cut are cut at newlines as if it had not been. -/
theorem Leaves.segments (h : Leaves line kept) (hn : newline ∉ line) (b : List UInt8) :
    List.Forall₂ Leaves (Socket.segments (line ++ b)).1 (Socket.segments (kept ++ b)).1 ∧
      Leaves (Socket.segments (line ++ b)).2 (Socket.segments (kept ++ b)).2 := by
  have hsub : ∀ {x}, newline ∉ x → newline ∉ line ++ x ∧ newline ∉ kept ++ x := by
    intro x hx
    simp only [List.mem_append, not_or]
    exact ⟨⟨hn, hx⟩, fun hk => hn (h.ending.subset hk), hx⟩
  induction b using lines_induction with
  | line x hx =>
    rw [segments_line (hsub hx).1, segments_line (hsub hx).2]
    exact ⟨.nil, h.append x⟩
  | cons x b hx _ =>
    rw [← List.append_assoc, segments_cons (hsub hx).1, ← List.append_assoc,
      segments_cons (hsub hx).2]
    exact ⟨.cons (h.append x) (List.forall₂_same.2 fun y _ => .refl y), .refl _⟩

/-- When lines are taken out of what was left and what has come since, they are those of what is
left of the lines that have ended. -/
theorem Leaves.takeLines {lines : List (List UInt8)} (h : Leaves (Socket.segments a).2 kept)
    (hk : List.Forall₂ Leaves (Socket.segments a).1 lines) (b : List UInt8) :
    ∃ lines', List.Forall₂ Leaves (Socket.segments (a ++ b)).1 lines' ∧
      lines.filterMap messageOf ++ (Socket.takeLines (kept ++ b)).messages
        = lines'.filterMap messageOf ∧
      Leaves (Socket.segments (a ++ b)).2 (Socket.takeLines (kept ++ b)).pending := by
  obtain ⟨hended, hrest⟩ := h.segments (newline_notMem_rest a) b
  rw [segments_append, takeLines_messages, takeLines_pending]
  exact ⟨_, List.rel_append hk hended, (List.filterMap_append ..).symm, hrest.rest⟩

end Leaves

section Receiving

variable {s r : Socket} {pumped unread : List UInt8} {ms : List String}

/-- A socket with a sink and an open link that nobody else uses, of which it has pumped some bytes
and has others still to read; `ms` is what it has delivered. -/
structure Sifts (s : Socket) (pumped unread : List UInt8) (ms : List String) : Prop where
  idle : s.line = []
  sink : s.hasSink
  link : ∃ l, s.link = some l ∧ Leaves (segments pumped).2 l.pending ∧
    l.pending.length < bufferSize ∧ l.wire.arrived = unread ∧ l.wire.ended = false
  delivered : ∃ kept, List.Forall₂ Leaves (segments pumped).1 kept ∧ ms = kept.filterMap messageOf

/-- The other end closes the link, or reading from it fails. -/
def hangUp (s : Socket) : Socket :=
  { s with link := s.link.map fun l => { l with wire := { l.wire with ended := true } } }

/-- A pump takes the complete lines out of all that has come in, and leaves the link unless nothing
follows. -/
theorem receive_pump {l : Link} (hi : s.line = []) (hs : s.hasSink) (hl : s.link = some l)
    (now : Nat) : ∃ s', s.receive (.pump now) =
        (s', (takeLines (l.pending ++ l.wire.arrived)).messages) ∧
      s'.line = [] ∧ s'.hasSink ∧ s'.link = if l.wire.ended then none else some { l with
        wire := { l.wire with arrived := [] }
        pending := (takeLines (l.pending ++ l.wire.arrived)).pending } := by
  rcases he : l.wire.ended with _ | _ <;>
    simp [receive, Socket.run, enter, hi, begin, Socket.pump, hl, he, hs, finish, leave, close]

theorem takeLines_pending_lt (b : List UInt8) : (takeLines b).pending.length < bufferSize := by
  rw [takeLines_pending]
  split
  · assumption
  · decide

namespace Sifts

theorem of_receives (h : s.Receives [] []) : s.Sifts [] [] [] := by
  obtain ⟨hi, hs, l, hl, hp, ha, he⟩ := h
  refine ⟨hi, hs, ⟨l, hl, ?_, ?_, ha, he⟩, [], .nil, rfl⟩
  · rw [hp]
    exact .refl _
  · rw [hp]
    decide

theorem read (h : s.Sifts pumped unread ms) (bytes : List UInt8) :
    (s.receive (.read bytes)).1.Sifts pumped (unread ++ bytes) ms := by
  obtain ⟨hi, hs, ⟨l, hl, hp, hb, rfl, he⟩, hd⟩ := h
  exact ⟨hi, hs, ⟨{ l with wire := { l.wire with arrived := l.wire.arrived ++ bytes } },
    by simp [receive, hl], hp, hb, rfl, he⟩, hd⟩

/-- A pump delivers what has been kept of the lines that have ended. -/
theorem taken (h : s.Sifts pumped unread ms) {l : Link} (hl : s.link = some l) :
    ∃ kept, List.Forall₂ Leaves (segments (pumped ++ unread)).1 kept ∧
      ms ++ (takeLines (l.pending ++ l.wire.arrived)).messages = kept.filterMap messageOf ∧
      Leaves (segments (pumped ++ unread)).2 (takeLines (l.pending ++ l.wire.arrived)).pending := by
  obtain ⟨-, -, ⟨l', hl', hp, -, rfl, -⟩, kept, hk, rfl⟩ := h
  obtain rfl := Option.some.inj (hl'.symm.trans hl)
  exact hp.takeLines hk l'.wire.arrived

theorem pump (h : s.Sifts pumped unread ms) (now : Nat) :
    (s.receive (.pump now)).1.Sifts (pumped ++ unread) [] (ms ++ (s.receive (.pump now)).2) := by
  obtain ⟨l, hl, -, -, -, he⟩ := h.link
  obtain ⟨kept, hk, hms, hp⟩ := h.taken hl
  obtain ⟨s', hr, hi, hs, hl'⟩ := receive_pump h.idle h.sink hl now
  rw [he] at hl'
  rw [hr]
  exact ⟨hi, hs, ⟨_, hl', hp, takeLines_pending_lt _, rfl, he⟩, kept, hk, hms⟩

theorem run (xs : List Arrival) (h : s.Sifts pumped unread ms) : ∃ pumped' unread',
    pumped' ++ unread' = pumped ++ unread ++ xs.flatMap Arrival.bytes ∧
      (s.receiveAll xs).1.Sifts pumped' unread' (ms ++ (s.receiveAll xs).2) := by
  induction xs generalizing s pumped unread ms with
  | nil => exact ⟨pumped, unread, (List.append_nil _).symm, (List.append_nil ms).symm ▸ h⟩
  | cons x xs ih =>
    cases x with
    | read bytes =>
      obtain ⟨p, u, he, hr⟩ := ih (h.read bytes)
      exact ⟨p, u, by simpa [Arrival.bytes] using he, hr⟩
    | pump now =>
      obtain ⟨p, u, he, hr⟩ := ih (h.pump now)
      refine ⟨p, u, by simpa [Arrival.bytes] using he, ?_⟩
      rwa [List.append_assoc] at hr

end Sifts

/-- However the bytes of a link are cut into reads and pumps, the messages delivered are those of
what is kept of its lines, also when the other end has hung up. -/
theorem delivered_of_received (h : s.Receives [] []) (xs : List Arrival) (now : Nat)
    (hr : r = (s.receiveAll xs).1 ∨ r = (s.receiveAll xs).1.hangUp) :
    ∃ kept, List.Forall₂ Leaves (segments (xs.flatMap Arrival.bytes)).1 kept ∧
      (s.receiveAll xs).2 ++ (r.receive (.pump now)).2 = kept.filterMap messageOf ∧
      ∀ l, (r.receive (.pump now)).1.link = some l → l.pending.length < bufferSize := by
  obtain ⟨pumped, unread, he, hs⟩ := (Sifts.of_receives h).run xs
  obtain ⟨l, hl, -, -, -, hopen⟩ := hs.link
  obtain ⟨kept, hk, hms, -⟩ := hs.taken hl
  rw [he] at hk
  -- whether or not the other end has hung up, the last pump finds the same bytes
  obtain ⟨b, hi, hsink, hlink⟩ : ∃ b, r.line = [] ∧ r.hasSink ∧
      r.link = some { l with wire := { l.wire with ended := b } } := by
    rcases hr with rfl | rfl
    · exact ⟨false, hs.idle, hs.sink, by rw [hl, ← hopen]⟩
    · exact ⟨true, hs.idle, hs.sink, by simp [hangUp, hl]⟩
  obtain ⟨s', hpump, -, -, hlast⟩ := receive_pump hi hsink hlink now
  rw [hpump]
  refine ⟨kept, hk, hms, fun l' hl' => ?_⟩
  rw [hlast] at hl'
  split at hl' <;> cases hl'
  exact takeLines_pending_lt _

/-- What a socket that has nothing pending makes of bytes that come before one pump. -/
theorem receiveAll_burst (h : s.Receives [] []) (bytes : List UInt8) (now : Nat) : ∃ s',
    s.receiveAll [.read bytes, .pump now] = (s', (takeLines bytes).messages) ∧ s'.line = [] ∧
      s'.hasSink ∧ ∃ l, s'.link = some l ∧ l.pending = (takeLines bytes).pending ∧
        l.wire.arrived = [] ∧ l.wire.ended = false := by
  obtain ⟨hi, hs, l, hl, hp, ha, he⟩ := h.read bytes
  have hbytes : l.pending ++ l.wire.arrived = bytes := by
    rw [hp, ha]
    rfl
  obtain ⟨s', hpump, hi', hs', hl'⟩ := receive_pump hi hs hl now
  rw [he] at hl'
  rw [hbytes] at hpump hl'
  refine ⟨s', ?_, hi', hs', _, hl', rfl, rfl, he⟩
  simp only [receiveAll, hpump]
  simp [receive]

/-- A socket with a sink and an open link, of which nothing has been read. -/
def lone : Socket where
  network := { lookup := fun _ => .found, dial := fun _ => .refused }
  link := some { peer := { host := "127.0.0.1", port := 9000 } }
  hasSink := true

theorem receives_lone : lone.Receives [] [] := ⟨rfl, rfl, _, rfl, rfl, rfl, rfl⟩

/-- A line fills the buffer, and goes on. -/
def flood : List UInt8 := List.replicate bufferSize 120

theorem newline_notMem_flood : newline ∉ flood := by
  simp [flood, List.mem_replicate, newline]

/-- Two short lines come after an overlong one, the other end hangs up, and then comes a pump. -/
theorem delivered_of_received_flood : ∃ (xs : List Arrival) (long kept : List UInt8),
    lone.Receives [] [] ∧ bufferSize < long.length ∧
      (segments (xs.flatMap Arrival.bytes)).1 = [long, encode "a", encode "b"] ∧
      Leaves long kept ∧
      (lone.receiveAll xs).2 ++ ((lone.receiveAll xs).1.hangUp.receive (.pump 20)).2
        = [kept, encode "a", encode "b"].filterMap messageOf := by
  have ha : encode "a" = [97] := by rw [encode_eq]; rfl
  have hb : encode "b" = [98] := by rw [encode_eq]; rfl
  let xs : List Arrival := [.read flood, .pump 10, .read [121, 10, 97, 10, 98, 10]]
  have hcut : (segments (xs.flatMap Arrival.bytes)).1 = [flood ++ [121], [97], [98]] := by
    have hbytes : xs.flatMap Arrival.bytes = (flood ++ [121]) ++ newline :: [97, 10, 98, 10] := by
      simp [xs, Arrival.bytes, newline]
    have hn : newline ∉ flood ++ [121] := by
      rw [List.mem_append, not_or]
      exact ⟨newline_notMem_flood, by decide⟩
    rw [hbytes, segments_cons hn]
    rfl
  obtain ⟨kept, hk, hms, -⟩ := delivered_of_received receives_lone xs 20 (.inr rfl)
  rw [hcut] at hk
  rcases hk with _ | ⟨hfirst, _ | ⟨hsecond, _ | ⟨hthird, _ | _⟩⟩⟩
  obtain rfl := hsecond.whole (by decide)
  obtain rfl := hthird.whole (by decide)
  exact ⟨xs, flood ++ [121], _, receives_lone, by simp [flood], by rw [hcut, ha, hb], hfirst,
    by rw [hms, ha, hb]⟩

/-- A line that comes with its newline before the next pump is delivered, however long it is. -/
theorem delivered_of_burst {line : List UInt8} {m : String} (h : s.Receives [] [])
    (hn : newline ∉ line) (hm : messageOf line = some m) (now : Nat) :
    (s.receiveAll [.read (line ++ [newline]), .pump now]).2 = [m] := by
  obtain ⟨s', hs, -⟩ := receiveAll_burst h (line ++ [newline]) now
  rw [hs, takeLines_messages, messagesOf, segments_cons hn]
  simp [hm, segments]

/-- What comes of a line after a pump that found the buffer full of it is delivered as a message of
its own. -/
theorem delivered_of_tail {line tail : List UInt8} {m : String} (h : s.Receives [] [])
    (hn : newline ∉ line) (hb : bufferSize ≤ line.length) (ht : newline ∉ tail)
    (hm : messageOf tail = some m) (now now' : Nat) :
    (s.receiveAll [.read line, .pump now, .read (tail ++ [newline]), .pump now']).2 = [m] := by
  obtain ⟨s', hs, hi, hsink, l, hl, hp, ha, he⟩ := receiveAll_burst h line now
  have hlen : ¬ (segments line).2.length < bufferSize := by
    rw [segments_line hn]
    exact Nat.not_lt.2 hb
  -- the buffer is reset, and the socket is as it was before
  have hreset : s'.Receives [] [] :=
    ⟨hi, hsink, l, hl, by rw [hp, takeLines_pending, if_neg hlen]; rfl, ha, he⟩
  have hnone : (takeLines line).messages = [] := by
    rw [takeLines_messages, messagesOf, segments_line hn]
    rfl
  have hall := receiveAll_append s [.read line, .pump now]
    [.read (tail ++ [newline]), .pump now']
  rw [hs, hnone, delivered_of_burst hreset ht hm now'] at hall
  exact congrArg Prod.snd hall

/-- The one line that comes in is longer than the buffer, and an end of it is delivered. -/
theorem overlong_delivered : ∃ (s : Socket) (line : List UInt8) (xs : List Arrival),
    s.Receives [] [] ∧ bufferSize < line.length ∧
      segments (xs.flatMap Arrival.bytes) = ([line], []) ∧ (s.receiveAll xs).2 = ["y"] := by
  have hy : encode "y" = [121] := by rw [encode_eq]; rfl
  have hfits : Fits "y" := ⟨by decide, by decide, by decide, by rw [hy]; decide⟩
  have hn : newline ∉ flood ++ encode "y" := by
    simp [newline_notMem_flood, hfits.not_mem]
  refine ⟨lone, flood ++ encode "y", [.read flood, .pump 0, .read (encode "y" ++ [newline]),
    .pump 10], receives_lone, by simp [flood, hy], ?_, ?_⟩
  · have hbytes : flood ++ (encode "y" ++ [newline]) = (flood ++ encode "y") ++ newline :: [] := by
      simp
    simp only [List.flatMap_cons, List.flatMap_nil, Arrival.bytes, List.nil_append,
      List.append_nil]
    rw [hbytes, segments_cons hn]
    rfl
  · exact delivered_of_tail receives_lone newline_notMem_flood (by simp [flood]) hfits.not_mem
      hfits.messageOf 0 10

end Receiving

end SessionKeeper.Socket

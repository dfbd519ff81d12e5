import SessionKeeper.Proofs.Socket.Overflow

/-!
# How a link is given up

Operations on one socket overlap in any order: they are called, have their turns, and are abandoned,
and in between the other end and the network go on. While a connect is only called when no other is
under way, one that waits or dials has found no link and none comes up before it is done
(`Orderly`). So an open link is given up by a disconnect, a write that fails, or a pump that finds
that the link has ended, and by nothing else, and what has been read of it stays until a pump takes
the complete lines out (`kept_of_run`). A connect that is called while another dials waits for it
and then dials all the same: it replaces the link that the other one got; and a pump gives up what
has been received of a line that has filled the buffer (`link_given_up`).
-/

namespace SessionKeeper.Socket

section Turns

variable {s : Socket} {op : Op} {l l' : Link} {ms : List String} {now ticket : Nat}

/-- An operation that gives a link up in its turn. -/
def Op.cuts (l : Link) : Op → Bool
  | fresh .disconnect | waiting _ .disconnect => true
  | fresh (.send _) | waiting _ (.send _) | writing _ _ => l.wire.broken.isSome
  | fresh .pump | waiting _ .pump => l.wire.ended
  | _ => false

/-- A link is kept with what has been received on it, but for the lines that are delivered. -/
structure Spares (sink : Bool) (l l' : Link) (ms : List String) : Prop where
  peer : l'.peer = l.peer
  bytes : l'.pending = l.pending ∧ l.wire.arrived <+: l'.wire.arrived ∧ ms = [] ∨
    l'.pending = (takeLines (l.pending ++ l.wire.arrived)).pending ∧ l'.wire.arrived = [] ∧
      ms = if sink then (takeLines (l.pending ++ l.wire.arrived)).messages else []

theorem Spares.refl (sink : Bool) (l : Link) : Spares sink l l [] :=
  ⟨rfl, .inl ⟨rfl, List.prefix_refl _, rfl⟩⟩

/-- What a turn makes of an open link. -/
def Treats (s : Socket) (l : Link) (op : Op) (t : Turn Socket Op) : Prop :=
  (∃ l', t.state.link = some l' ∧ Spares s.hasSink l l' t.delivered) ∨
    t.state.link = none ∧ op.cuts l = true

namespace Treats

theorem of_same {t : Turn Socket Op} (hl : t.state.link = some l) (hd : t.delivered = []) :
    Treats s l op t :=
  .inl ⟨l, hl, by rw [hd]; exact .refl _ l⟩

theorem write (hl : s.link = some l) (bytes : List UInt8)
    (hop : op.cuts l = l.wire.broken.isSome) : Treats s l op (s.write ticket bytes) := by
  unfold Socket.write
  rw [hl]
  dsimp only
  split
  · rename_i reason hb
    exact .inr ⟨rfl, by rw [hop, hb]; rfl⟩
  · split <;> exact .inl ⟨_, rfl, rfl, .inl ⟨rfl, List.prefix_refl _, rfl⟩⟩

theorem pump (hl : s.link = some l) (hop : op.cuts l = l.wire.ended) :
    Treats s l op (s.pump ticket) := by
  unfold Socket.pump
  rw [hl]
  dsimp only
  rcases he : l.wire.ended with _ | _
  · exact .inl ⟨_, rfl, rfl, .inr ⟨rfl, rfl, rfl⟩⟩
  · exact .inr ⟨rfl, hop.trans he⟩

theorem begin {r : Request} (hl : s.link = some l) (hr : ∀ target, r ≠ .connect target)
    (hop : op.cuts l = (Op.fresh r).cuts l) : Treats s l op (s.begin ticket r now) := by
  cases r with
  | connect target => exact absurd rfl (hr target)
  | disconnect => exact .inr ⟨rfl, hop⟩
  | send payload =>
    simp only [Socket.begin, hl, Option.isNone_some, Bool.false_eq_true, if_false]
    exact write hl _ hop
  | pump => exact pump hl hop

/-- A turn of an operation that does not dial. -/
theorem run (hl : s.link = some l) (hd : op.dials = none) : Treats s l op (s.run op now) := by
  cases op with
  | fresh r =>
    have hr : ∀ target, r ≠ .connect target := by
      rintro target rfl
      cases hd
    have henter : Treats s l (.fresh r) (s.enter r now) := by
      simp only [enter]
      split
      · exact begin (s := { s with line := s.line ++ [s.tickets], tickets := s.tickets + 1 }) hl hr
          rfl
      · exact .of_same hl rfl
    cases r with
    | connect target => exact absurd rfl (hr target)
    | _ => exact henter
  | waiting n r =>
    have hr : ∀ target, r ≠ .connect target := by
      rintro target rfl
      cases hd
    simp only [Socket.run]
    split
    · exact begin hl hr (by cases r <;> rfl)
    · exact .of_same hl rfl
  | writing n rest => exact write hl rest rfl
  | _ => cases hd

end Treats

/-- The answer to a query for the link tells whether there is one. -/
def Tells (s : Socket) : Prop := s.connected = s.link.isSome

namespace Tells

theorem write (h : s.Tells) (bytes : List UInt8) : (s.write ticket bytes).state.Tells := by
  unfold Socket.write
  split
  · exact h
  · rename_i link hlink
    have hup : s.connected = true := by rw [h, hlink]; rfl
    split
    · rfl
    · dsimp only
      split <;> exact hup

theorem pump (h : s.Tells) : (s.pump ticket).state.Tells := by
  unfold Socket.pump
  split
  · exact h
  · rename_i link hlink
    have hup : s.connected = true := by rw [h, hlink]; rfl
    dsimp only
    rcases link.wire.ended with _ | _
    · exact hup
    · rfl

theorem resolve (h : s.Tells) (target : Endpoint) : (s.resolve ticket target now).state.Tells := by
  unfold Socket.resolve Socket.dial
  split
  · exact h
  · exact h
  · split
    · rfl
    · exact h
    · split <;> exact h

theorem dial (h : s.Tells) (target : Endpoint) (deadline : Nat) :
    (s.dial ticket target deadline now).state.Tells := by
  unfold Socket.dial
  split
  · rfl
  · exact h
  · split <;> exact h

theorem begin (h : s.Tells) (r : Request) : (s.begin ticket r now).state.Tells := by
  cases r with
  | connect target => exact h.resolve target
  | disconnect => rfl
  | send payload =>
    simp only [Socket.begin]
    split
    · exact h
    · exact h.write _
  | pump => exact h.pump

theorem enter (h : s.Tells) (r : Request) : (s.enter r now).state.Tells := by
  have h' : ({ s with line := s.line ++ [s.tickets], tickets := s.tickets + 1 } : Socket).Tells := h
  simp only [Socket.enter]
  split
  · exact h'.begin r
  · exact h'

theorem run (h : s.Tells) (op : Op) (now : Nat) : (s.run op now).state.Tells := by
  cases op with
  | fresh r =>
    cases r with
    | connect target =>
      simp only [Socket.run]
      split
      · exact h
      · exact h.enter _
    | _ => exact h.enter _
  | waiting n r =>
    simp only [Socket.run]
    split
    · exact h.begin r
    · exact h
  | resolving n target => exact h.resolve target
  | dialing n target deadline => exact h.dial target deadline
  | writing n rest => exact h.write rest

theorem abandon (h : s.Tells) (op : Op) : (s.abandon op).Tells := by
  unfold Socket.abandon
  split <;> exact h

end Tells

/-- A connect that has just been called finds the link up and leaves it. -/
theorem run_connect_of_up {target : Endpoint} (h : s.connected = true) :
    s.run (.fresh (.connect target)) now =
      { state := s, progress := .done (.ok StatusCode.ok) } := by
  rw [run, if_pos h]

/-- Only a connect that was called before may replace an open link. -/
theorem Tells.treats (h : s.Tells) (hl : s.link = some l) (op : Op) (now : Nat) :
    Treats s l op (s.run op now) ∨ op.dials.isSome = true ∧ op.begun = true := by
  rcases hd : op.dials with _ | target
  · exact .inl (.run hl hd)
  rcases hb : op.begun with _ | _
  · have hup : s.connected = true := by rw [h, hl]; rfl
    cases op with
    | fresh r =>
      cases r with
      | connect t =>
        rw [run_connect_of_up hup]
        exact .inl (.of_same hl rfl)
      | _ => cases hd
    | _ => cases hb
  · exact .inr ⟨rfl, rfl⟩

end Turns

section Traffic

/-- A socket with the operations that have been called; one that is over is gone. -/
structure Busy where
  socket : Socket
  ops : List (Option Op) := []
  now : Nat := 0

/-- What may happen next to a socket and its operations. -/
inductive Act
  | call (r : Request)
  | turn (i : Nat)
  | abandon (i : Nat)
  /-- The network answers differently, and more bytes may arrive on the link, or nothing follows
  them, or it takes more or fewer bytes. -/
  | stir (network : Network) (more : List UInt8) (ended : Bool) (room : Option Nat)
    (broken : Option String)
  | pass (ms : Nat)

/-- What is left of an operation after a turn. -/
def Turn.rest (t : Turn Socket Op) : Option Op :=
  match t.progress with
  | .pending op => some op
  | .done _ => none

/-- The operation of a number, unless it is over. -/
def Busy.op? (b : Busy) (i : Nat) : Option Op := b.ops[i]?.join

/-- What comes next, if it can, and the messages that are delivered. -/
def Busy.next? (b : Busy) : Act → Option (Busy × List String)
  | .call r => some ({ b with ops := b.ops ++ [some (.fresh r)] }, [])
  | .turn i => (b.op? i).map fun op =>
    let t := b.socket.run op b.now
    ({ b with socket := t.state, ops := b.ops.set i (Turn.rest t) }, t.delivered)
  | .abandon i => (b.op? i).map fun op =>
    ({ b with socket := b.socket.abandon op, ops := b.ops.set i none }, [])
  | .stir network more ended room broken =>
    let link := b.socket.link.map fun l =>
      { l with wire := { l.wire with arrived := l.wire.arrived ++ more, ended, room, broken } }
    some ({ b with socket := { b.socket with network, link } }, [])
  | .pass ms => some ({ b with now := b.now + ms }, [])

/-- Acts that lead from one to another, each `ok` where it is done. -/
inductive Leads (ok : Busy → Act → Prop) : Busy → List Act → Busy → Prop
  | nil (b : Busy) : Leads ok b [] b
  | cons {b b' b'' : Busy} {a : Act} {as : List Act} {ms : List String} :
      ok b a → b.next? a = some (b', ms) → Leads ok b' as b'' → Leads ok b (a :: as) b''

/-- A connect is called only when no other is under way. -/
def Serial (b : Busy) : Act → Prop
  | .call (.connect _) => ∀ i op, b.op? i = some op → op.dials = none
  | _ => True

/-- One connect at most is under way, and once it has had a turn there is no link. -/
structure Orderly (b : Busy) : Prop where
  tells : b.socket.Tells
  single : ∀ {i j : Nat} {op op' : Op}, b.op? i = some op → op.dials.isSome = true →
    b.op? j = some op' → op'.dials.isSome = true → i = j
  down : ∀ {i : Nat} {op : Op}, b.op? i = some op → op.dials.isSome = true → op.begun = true →
    b.socket.link = none

section Operations

variable {b : Busy} {ops : List (Option Op)} {i j : Nat} {op op' : Op} {o : Option Op}

theorem Busy.op?_eq_some : b.op? i = some op ↔ b.ops[i]? = some (some op) :=
  Option.join_eq_some_iff

theorem getElem?_set_op (h : (ops.set i o)[j]? = some (some op)) :
    i = j ∧ o = some op ∨ i ≠ j ∧ ops[j]? = some (some op) := by
  rw [List.getElem?_set] at h
  split at h
  · rename_i hij
    split at h <;> cases h
    exact .inl ⟨hij, rfl⟩
  · rename_i hij
    exact .inr ⟨hij, h⟩

theorem getElem?_concat_op (h : (ops ++ [some op])[j]? = some (some op')) :
    ops[j]? = some (some op') ∨ op' = op ∧ j = ops.length := by
  rw [List.getElem?_append] at h
  split at h
  · exact .inl h
  · obtain ⟨hj, he⟩ := List.getElem?_eq_some_iff.1 h
    simp only [List.length_singleton] at hj
    refine .inr ⟨?_, by omega⟩
    simpa [show j - ops.length = 0 by omega] using he.symm

end Operations

namespace Orderly

variable {b b' : Busy} {i : Nat} {op : Op} {ms : List String}

/-- Every connect under way was so before. -/
theorem of_ops (h : Orderly b) (ht : b'.socket.Tells)
    (hops : ∀ {j : Nat} {op' : Op}, b'.op? j = some op' → op'.dials.isSome = true →
      (∃ op, b.op? j = some op ∧ op.dials.isSome = true) ∧
        (op'.begun = true → b'.socket.link = none)) : Orderly b' := by
  refine ⟨ht, fun hi hdi hj hdj => ?_, fun hi hdi => (hops hi hdi).2⟩
  obtain ⟨⟨op, hop, hd⟩, -⟩ := hops hi hdi
  obtain ⟨⟨op', hop', hd'⟩, -⟩ := hops hj hdj
  exact h.single hop hd hop' hd'

/-- A connect that goes on after a turn has found no link. -/
theorem link_of_pending {op' : Op} (h : Orderly b) (hi : b.op? i = some op)
    (hd : op.dials.isSome = true) (hp : (b.socket.run op b.now).progress = .pending op') :
    (b.socket.run op b.now).state.link = none := by
  obtain ⟨target, hd'⟩ := Option.isSome_iff_exists.1 hd
  have hnone : b.socket.link = none := by
    rcases hb : op.begun with _ | _
    · -- it would be done if there were a link
      rcases hup : b.socket.connected with _ | _
      · have htells := h.tells
        rw [Tells, hup] at htells
        exact Option.not_isSome_iff_eq_none.1 (by simp [← htells])
      · cases op with
        | fresh r =>
          cases r with
          | connect t =>
            rw [run_connect_of_up hup] at hp
            cases hp
          | _ => cases hd'
        | _ => cases hb
    · exact h.down hi hd hb
  have hdials : Dials target b.socket (b.socket.run op b.now) :=
    Dials.run hd' fun _ l hl => by simp [hnone] at hl
  rw [hdials.kept (by rw [hp]; simp), hnone]

/-- An operation has a turn, and the others wait. -/
theorem turn (h : Orderly b) (hi : b.op? i = some op) : Orderly { b with
    socket := (b.socket.run op b.now).state
    ops := b.ops.set i (Turn.rest (b.socket.run op b.now)) } := by
  refine h.of_ops (h.tells.run op b.now) fun {j op'} hj hd => ?_
  rcases getElem?_set_op (Busy.op?_eq_some.1 hj) with ⟨rfl, hrest⟩ | ⟨hij, hj⟩
  · have hp : (b.socket.run op b.now).progress = .pending op' := by
      unfold Turn.rest at hrest
      split at hrest <;> cases hrest
      assumption
    have hop : op.dials.isSome = true := by
      rcases hnone : op.dials with _ | target
      · rw [(Bides.run hnone).pending hp] at hd
        cases hd
      · rfl
    exact ⟨⟨op, hi, hop⟩, fun _ => h.link_of_pending hi hop hp⟩
  · have hj := Busy.op?_eq_some.2 hj
    refine ⟨⟨op', hj, hd⟩, fun hb => ?_⟩
    have hdown := h.down hj hd hb
    -- a turn of another operation gives the socket no link
    have hop : op.dials = none := by
      by_contra hne
      exact hij (h.single hi (Option.isSome_iff_ne_none.2 hne) hj hd)
    rcases hl : (b.socket.run op b.now).state.link with _ | l
    · rfl
    · obtain ⟨l', hl', -⟩ := (Bides.run hop).holds l hl
      simp [hdown] at hl'

theorem call {r : Request} (h : Orderly b) (hr : Serial b (.call r)) :
    Orderly { b with ops := b.ops ++ [some (.fresh r)] } := by
  have hnew : ∀ {i j : Nat} {op op' : Op}, b.op? i = some op → op.dials.isSome = true →
      op' = .fresh r ∧ j = b.ops.length → op'.dials.isSome = true → False := by
    rintro i j op op' hi hdi ⟨rfl, rfl⟩ hdj
    cases r with
    | connect target => simp [hr i op hi] at hdi
    | _ => cases hdj
  refine ⟨h.tells, fun hi hdi hj hdj => ?_, fun hi hdi hb => ?_⟩
  · rcases getElem?_concat_op (Busy.op?_eq_some.1 hi) with hi | hi <;>
      rcases getElem?_concat_op (Busy.op?_eq_some.1 hj) with hj | hj
    · exact h.single (Busy.op?_eq_some.2 hi) hdi (Busy.op?_eq_some.2 hj) hdj
    · exact (hnew (Busy.op?_eq_some.2 hi) hdi hj hdj).elim
    · exact (hnew (Busy.op?_eq_some.2 hj) hdj hi hdi).elim
    · exact hi.2.trans hj.2.symm
  · rcases getElem?_concat_op (Busy.op?_eq_some.1 hi) with hi | ⟨rfl, -⟩
    · exact h.down (Busy.op?_eq_some.2 hi) hdi hb
    · cases hb

/-- No connect that goes on has found a link, so a turn treats an open one well. -/
theorem treats {l : Link} (h : Orderly b) (hi : b.op? i = some op) (hl : b.socket.link = some l) :
    Treats b.socket l op (b.socket.run op b.now) := by
  refine (h.tells.treats hl op b.now).resolve_right fun ⟨hd, hb⟩ => ?_
  simp [h.down hi hd hb] at hl

theorem next {a : Act} (h : Orderly b) (ha : Serial b a) (hn : b.next? a = some (b', ms)) :
    Orderly b' := by
  cases a with
  | call r =>
    cases hn
    exact h.call ha
  | turn i =>
    obtain ⟨op, hi, hb⟩ := Option.map_eq_some_iff.1 hn
    obtain ⟨rfl, -⟩ := Prod.mk.inj hb
    exact h.turn hi
  | abandon i =>
    obtain ⟨op, hi, hb⟩ := Option.map_eq_some_iff.1 hn
    obtain ⟨rfl, -⟩ := Prod.mk.inj hb
    have hlink := link_abandon op b.socket
    refine h.of_ops (h.tells.abandon op) fun {j op'} hj hd => ?_
    · rcases getElem?_set_op (Busy.op?_eq_some.1 hj) with ⟨-, hnone⟩ | ⟨-, hj⟩
      · cases hnone
      · have hj := Busy.op?_eq_some.2 hj
        exact ⟨⟨op', hj, hd⟩, fun hb => hlink.trans (h.down hj hd hb)⟩
  | stir network more ended room broken =>
    cases hn
    refine h.of_ops ?_ fun {j op'} hj hd => ⟨⟨op', hj, hd⟩, fun hb => ?_⟩
    · simpa [Tells] using h.tells
    · simpa using h.down hj hd hb
  | pass ms =>
    cases hn
    exact ⟨h.tells, h.single, h.down⟩

theorem run {as : List Act} (h : Leads Serial b as b') (hb : Orderly b) : Orderly b' := by
  induction h with
  | nil => exact hb
  | cons ha hn _ ih => exact ih (hb.next ha hn)

theorem start (network : Network) (hasSink : Bool) (dialTimeout : Nat) :
    Orderly { socket := { network, hasSink, dialTimeout } } := by
  constructor <;> simp [Tells, Busy.op?]

end Orderly

/-- While a connect is only called when no other is under way, an open link is kept in every step,
with what has been received on it but for the lines that are delivered, unless an operation gives
it up that disconnects, fails to write, or finds that nothing more will come. -/
theorem kept_of_run {network : Network} {hasSink : Bool} {dialTimeout : Nat} {as : List Act}
    {a : Act} {b b' : Busy} {l : Link} {ms : List String}
    (h : Leads Serial { socket := { network, hasSink, dialTimeout } } as b)
    (hl : b.socket.link = some l) (hn : b.next? a = some (b', ms)) :
    (∃ l', b'.socket.link = some l' ∧ Spares b.socket.hasSink l l' ms) ∨
      b'.socket.link = none ∧ ∃ i op, a = .turn i ∧ b.op? i = some op ∧ op.cuts l = true := by
  have ho := (Orderly.start network hasSink dialTimeout).run h
  cases a with
  | call r =>
    cases hn
    exact .inl ⟨l, hl, .refl _ l⟩
  | turn i =>
    obtain ⟨op, hi, hb⟩ := Option.map_eq_some_iff.1 hn
    obtain ⟨rfl, rfl⟩ := Prod.mk.inj hb
    refine (ho.treats hi hl).imp_right fun ⟨hnone, hcut⟩ => ⟨hnone, i, op, rfl, hi, hcut⟩
  | abandon i =>
    obtain ⟨op, hi, hb⟩ := Option.map_eq_some_iff.1 hn
    obtain ⟨rfl, rfl⟩ := Prod.mk.inj hb
    exact .inl ⟨l, (link_abandon op b.socket).trans hl, .refl _ l⟩
  | stir network more ended room broken =>
    cases hn
    let wire := { l.wire with arrived := l.wire.arrived ++ more, ended, room, broken }
    exact .inl ⟨{ l with wire }, by rw [hl]; rfl, rfl, .inl ⟨rfl, List.prefix_append _ _, rfl⟩⟩
  | pass ms =>
    cases hn
    exact .inl ⟨l, hl, .refl _ l⟩

/-- A network that knows every host, whose peers let a dial ring. -/
def ringing : Network := { lookup := fun _ => .found, dial := fun _ => .ringing }

/-- A network that knows every host, whose peers answer. -/
def answering : Network := { lookup := fun _ => .found, dial := fun _ => .accepted {} }

def server : Endpoint := { host := "10.0.0.1", port := 9000 }

/-- A connect, and then a pump and a disconnect that overlap; bytes come before the pump has its
turn. -/
def mixedActs : List Act :=
  [.call (.connect server), .turn 0, .stir answering [] false none none, .turn 0, .call .pump,
    .call .disconnect, .stir answering [104, 105, 10, 33] false none none]

theorem kept_of_run_mixed : ∃ b b' l l' ms,
    Leads Serial { socket := { network := ringing, hasSink := true } } mixedActs b ∧
      b.socket.link = some l ∧ l.wire.arrived = [104, 105, 10, 33] ∧
      b.next? (.turn 1) = some (b', ms) ∧ b'.socket.link = some l' ∧ Spares true l l' ms := by
  obtain ⟨b, b', l, l', ms, h, hl, ha, hn, hl', hs⟩ : ∃ b b' l l' ms,
      Leads Serial { socket := { network := ringing, hasSink := true } } mixedActs b ∧
        b.socket.link = some l ∧ l.wire.arrived = [104, 105, 10, 33] ∧
        b.next? (.turn 1) = some (b', ms) ∧ b'.socket.link = some l' ∧
        b.socket.hasSink = true :=
    ⟨_, _, _, _, _, .cons (by simp [Serial, Busy.op?]) rfl <| .cons trivial rfl <|
      .cons trivial rfl <| .cons trivial rfl <| .cons trivial rfl <| .cons trivial rfl <|
      .cons trivial rfl <| .nil _, rfl, rfl, rfl, rfl, rfl⟩
  refine ⟨b, b', l, l', ms, h, hl, ha, hn, hl', ?_⟩
  rcases kept_of_run h hl hn with ⟨l'', hl'', hspares⟩ | ⟨hnone, -⟩
  · obtain rfl := Option.some.inj (hl''.symm.trans hl')
    exact hs ▸ hspares
  · cases hnone.symm.trans hl'

/-- Two connects overlap: the second waits for the first, and dials once that has got a link. -/
def overlappingActs : List Act :=
  [.call (.connect server), .call (.connect server), .turn 0, .turn 1,
    .stir answering [] false none none, .turn 0, .stir answering [104, 105, 10] false none none]

/-- Bytes have come in when a pump is called. -/
def burstActs (bytes : List UInt8) : List Act :=
  [.call (.connect server), .turn 0, .stir answering bytes false none none, .call .pump]

/-- A link is open and sound, and has bytes that are yet to be delivered, when a connect replaces
it; and such bytes are given up with the link left open, by a pump that finds the buffer full. -/
theorem link_given_up :
    (∃ b b' l l',
      Leads (fun _ _ => True) { socket := { network := ringing, hasSink := true } }
          overlappingActs b ∧
        b.socket.link = some l ∧ l.wire.arrived = [104, 105, 10] ∧ l.wire.ended = false ∧
        l.wire.broken = none ∧ b.op? 1 = some (.waiting 1 (.connect server)) ∧
        b.next? (.turn 1) = some (b', []) ∧ b'.socket.link = some l' ∧ l'.pending = [] ∧
        l'.wire.arrived = []) ∧
    ∃ b b' l l',
      Leads Serial { socket := { network := answering, hasSink := true } } (burstActs flood) b ∧
        b.socket.link = some l ∧ l.wire.arrived = flood ∧ l.wire.ended = false ∧
        l.wire.broken = none ∧ b.next? (.turn 1) = some (b', []) ∧
        b'.socket.link = some l' ∧ l'.pending = [] ∧ l'.wire.arrived = [] ∧
        l'.wire.ended = false := by
  refine ⟨⟨_, _, _, _, .cons trivial rfl <| .cons trivial rfl <| .cons trivial rfl <|
    .cons trivial rfl <| .cons trivial rfl <| .cons trivial rfl <| .cons trivial rfl <| .nil _, rfl,
    rfl, rfl, rfl, rfl, rfl, rfl, rfl, rfl⟩, ?_⟩
  have hnone : (takeLines flood).messages = [] := by
    rw [takeLines_messages, messagesOf, segments_line newline_notMem_flood]
    rfl
  have hreset : (takeLines flood).pending = [] := by
    rw [takeLines_pending, segments_line newline_notMem_flood, if_neg (by simp [flood])]
  have hpump : ∀ bytes, ∃ b b' l l',
      Leads Serial { socket := { network := answering, hasSink := true } } (burstActs bytes) b ∧
        b.socket.link = some l ∧ l.wire.arrived = bytes ∧ l.wire.ended = false ∧
        l.wire.broken = none ∧ b.next? (.turn 1) = some (b', (takeLines bytes).messages) ∧
        b'.socket.link = some l' ∧ l'.pending = (takeLines bytes).pending ∧
        l'.wire.arrived = [] ∧ l'.wire.ended = false :=
    fun bytes => ⟨_, _, _, _, .cons (by simp [Serial, Busy.op?]) rfl <| .cons trivial rfl <|
      .cons trivial rfl <| .cons trivial rfl <| .nil _, rfl, rfl, rfl, rfl, rfl, rfl, rfl, rfl, rfl⟩
  obtain ⟨b, b', l, l', h, hl, ha, he, hb, hn, hl', hp, ha', he'⟩ := hpump flood
  rw [hnone] at hn
  exact ⟨b, b', l, l', h, hl, ha, he, hb, hn, hl', hp.trans hreset, ha', he'⟩

end Traffic

end SessionKeeper.Socket

import SessionKeeper.Proofs.Socket.Overflow
import SessionKeeper.Proofs.Socket.Traffic

/-!
# Every link starts afresh

Operations on a socket overlap in any way, and any of them may be abandoned. What a turn does to the
link is one of four things: it leaves it, gives it up, takes the lines out of what has come in, or
puts a new one in its place (`Deals.run`). So the socket tells at any moment whether it has a link,
one that has ended or that cannot be written to is given up in the turn that finds it so, and from
then on nobody can send or pump until a dial succeeds; and what is delivered after a dial are the
lines that have come in since (`truthful_of_run`).
-/

namespace SessionKeeper.Socket

section Turns

/-- The connection that comes of an answer to a dial. -/
def Dialed.wire? : Dialed → Option Wire
  | accepted wire => some wire
  | _ => none

/-- The connection that a network gives to a connect that looks the address up and dials it. -/
def Network.gives (n : Network) : Request → Option Wire
  | .connect target =>
    if n.lookup target.host = .found then (n.dial target).wire? else none
  | _ => none

/-- Whether an operation has the link to itself in its turn. A connect does not ask for it if it
finds the link up when it is called. -/
def Op.served (s : Socket) : Op → Bool
  | fresh (.connect _) => !s.connected && s.line.isEmpty
  | fresh _ => s.line.isEmpty
  | waiting ticket _ => s.atFront ticket
  | _ => true

/-- The connection that an operation gets in its turn, if it dials with success. -/
def Op.gets (s : Socket) (op : Op) : Option Wire :=
  match op with
  | fresh r | waiting _ r => if op.served s then s.network.gives r else none
  | resolving _ target => s.network.gives (.connect target)
  | dialing _ target _ => (s.network.dial target).wire?
  | writing _ _ => none

/-- Whether an operation writes to the link or reads from it. -/
def Op.uses : Op → Bool
  | fresh (.send _) | waiting _ (.send _) | writing _ _ | fresh .pump | waiting _ .pump => true
  | _ => false

variable {s s' : Socket} {op : Op} {l : Link} {now ticket : Nat} {w : Wire} {target : Endpoint}

/-- A turn that gets the socket a connection, or none. -/
structure Deals (s : Socket) (got : Option Wire) (t : Turn Socket Op) : Prop where
  sink : t.state.hasSink = s.hasSink
  bides : got = none →
    t.delivered = [] ∧ (t.state.link = none ∨
      t.state.link.map (fun l => (l.pending, l.wire.arrived))
        = s.link.map fun l => (l.pending, l.wire.arrived)) ∨
    ∃ l, s.link = some l ∧
      t.delivered = (if s.hasSink then (takeLines (l.pending ++ l.wire.arrived)).messages else []) ∧
      ∀ l', t.state.link = some l' →
        l'.pending = (takeLines (l.pending ++ l.wire.arrived)).pending ∧ l'.wire.arrived = []
  dials : ∀ wire, got = some wire → t.delivered = [] ∧
    ∃ peer, t.state.link = some { peer, wire }

namespace Deals

/-- A turn that leaves the link. -/
theorem of_kept {t : Turn Socket Op} (hs : t.state.hasSink = s.hasSink)
    (hl : t.state.link = s.link) (hd : t.delivered = []) : Deals s none t :=
  ⟨hs, fun _ => .inl ⟨hd, .inr (by rw [hl])⟩, by simp⟩

/-- A turn that gives it up. -/
theorem of_cut {t : Turn Socket Op} (hs : t.state.hasSink = s.hasSink)
    (hl : t.state.link = none) (hd : t.delivered = []) : Deals s none t :=
  ⟨hs, fun _ => .inl ⟨hd, .inl hl⟩, by simp⟩

theorem of_same {got : Option Wire} {t : Turn Socket Op} (h : Deals s' got t)
    (hs : s'.hasSink = s.hasSink) (hl : s'.link = s.link) : Deals s got t := by
  obtain ⟨sink, bides, dials⟩ := h
  rw [hs] at sink bides
  rw [hl] at bides
  exact ⟨sink, bides, dials⟩

theorem dial (deadline : Nat) :
    Deals s (s.network.dial target).wire? (s.dial ticket target deadline now) := by
  unfold Socket.dial
  cases s.network.dial target with
  | accepted wire => exact ⟨rfl, by simp [Dialed.wire?], by simp [Dialed.wire?, finish, leave]⟩
  | refused => exact .of_kept rfl rfl rfl
  | ringing =>
    dsimp only
    split <;> exact .of_kept rfl rfl rfl

theorem resolve :
    Deals s (s.network.gives (.connect target)) (s.resolve ticket target now) := by
  unfold Socket.resolve
  simp only [Network.gives]
  cases s.network.lookup target.host with
  | found => exact .dial _
  | _ => exact .of_kept rfl rfl rfl

theorem write (bytes : List UInt8) : Deals s none (s.write ticket bytes) := by
  unfold Socket.write
  split
  · exact .of_kept rfl rfl rfl
  rename_i l hl
  split
  · exact .of_cut rfl rfl rfl
  · dsimp only
    split <;> exact ⟨rfl, fun _ => .inl ⟨rfl, .inr (by rw [hl]; rfl)⟩, by simp⟩

theorem pump : Deals s none (s.pump ticket) := by
  unfold Socket.pump
  split
  · exact .of_kept rfl rfl rfl
  rename_i l hl
  dsimp only
  rcases l.wire.ended with _ | _
  · refine ⟨rfl, fun _ => .inr ⟨l, hl, rfl, ?_⟩, by simp⟩
    rintro l' hl'
    cases hl'
    exact ⟨rfl, rfl⟩
  · refine ⟨rfl, fun _ => .inr ⟨l, hl, rfl, ?_⟩, by simp⟩
    rintro l' hl'
    cases hl'

theorem begin (r : Request) : Deals s (s.network.gives r) (s.begin ticket r now) := by
  cases r with
  | connect target => exact .resolve
  | disconnect => exact .of_cut rfl rfl rfl
  | send payload =>
    simp only [Socket.begin]
    split
    · exact .of_kept rfl rfl rfl
    · exact .write _
  | pump => exact .pump

theorem enter (r : Request) :
    Deals s (if s.line.isEmpty then s.network.gives r else none) (s.enter r now) := by
  simp only [Socket.enter]
  cases s.line.isEmpty with
  | true =>
    exact (begin (s := { s with line := s.line ++ [s.tickets], tickets := s.tickets + 1 })
      r).of_same rfl rfl
  | false => exact .of_kept rfl rfl rfl

/-- What a turn makes of the link. -/
theorem run (s : Socket) (op : Op) (now : Nat) : Deals s (op.gets s) (s.run op now) := by
  cases op with
  | fresh r =>
    cases r with
    | connect target =>
      rcases hup : s.connected with _ | _
      · simp only [Socket.run, Op.gets, Op.served, hup]
        exact .enter _
      · rw [run_connect_of_up hup]
        simp only [Op.gets, Op.served, hup]
        exact .of_kept rfl rfl rfl
    | _ => exact .enter _
  | waiting ticket r =>
    rcases hf : s.atFront ticket with _ | _ <;> simp only [Socket.run, Op.gets, Op.served, hf]
    · exact .of_kept rfl rfl rfl
    · exact .begin r
  | resolving ticket target => exact .resolve
  | dialing ticket target deadline => exact .dial deadline
  | writing ticket rest => exact .write rest

end Deals

/-- What a turn does that writes to the link or reads from it: it fails if there is none, and it
gives the link up if it cannot be written to, or if nothing more will come. -/
structure Fails (s : Socket) (op : Op) (t : Turn Socket Op) : Prop where
  absent : s.link = none → t.progress = .done (.ok StatusCode.notConnected)
  cut : ∀ l, s.link = some l → op.cuts l = true → t.state.link = none ∧
    (t.progress = .done (.ok StatusCode.refused) ∨ t.progress = .done (.ok StatusCode.notSent))

namespace Fails

theorem write (bytes : List UInt8) (hop : ∀ l, op.cuts l = l.wire.broken.isSome) :
    Fails s op (s.write ticket bytes) := by
  unfold Socket.write
  refine ⟨fun hl => by rw [hl]; rfl, fun l hl hc => ?_⟩
  rw [hop] at hc
  obtain ⟨reason, hb⟩ := Option.isSome_iff_exists.1 hc
  rw [hl]
  dsimp only
  rw [hb]
  exact ⟨rfl, .inr rfl⟩

theorem pump (hop : ∀ l, op.cuts l = l.wire.ended) : Fails s op (s.pump ticket) := by
  unfold Socket.pump
  refine ⟨fun hl => by rw [hl]; rfl, fun l hl hc => ?_⟩
  rw [hop] at hc
  rw [hl]
  dsimp only
  rw [hc]
  exact ⟨rfl, .inl rfl⟩

theorem begin {r : Request} (hu : (Op.fresh r).uses = true)
    (hop : ∀ l, op.cuts l = (Op.fresh r).cuts l) : Fails s op (s.begin ticket r now) := by
  cases r with
  | send payload =>
    simp only [Socket.begin]
    split
    · rename_i hl
      refine ⟨fun _ => rfl, fun l hl' => ?_⟩
      simp [hl'] at hl
    · exact .write _ hop
  | pump => exact .pump hop
  | _ => cases hu

theorem enter {r : Request} (hu : (Op.fresh r).uses = true) (hs : s.line.isEmpty = true) :
    Fails s (.fresh r) (s.enter r now) := by
  simp only [Socket.enter, hs, if_true]
  let s' : Socket := { s with line := s.line ++ [s.tickets], tickets := s.tickets + 1 }
  obtain ⟨absent, cut⟩ : Fails s' (.fresh r) (s'.begin s.tickets r now) := begin hu fun _ => rfl
  exact ⟨absent, cut⟩

theorem run (hu : op.uses = true) (hs : op.served s = true) : Fails s op (s.run op now) := by
  cases op with
  | fresh r =>
    cases r with
    | send payload => exact .enter rfl hs
    | pump => exact .enter rfl hs
    | _ => cases hu
  | waiting ticket r =>
    have hs : s.atFront ticket = true := hs
    simp only [Socket.run, hs, if_true]
    refine .begin ?_ fun l => ?_ <;> cases r <;> first | rfl | exact hu
  | writing ticket rest => exact .write rest fun _ => rfl
  | _ => cases hu

end Fails

/-- What a turn that does so leaves when it waits. -/
theorem pending_of_unserved (hu : op.uses = true) (hs : op.served s = false) :
    ∃ op', (s.run op now).progress = .pending op' ∧ op'.uses = true := by
  have henter : ∀ {r : Request}, (Op.fresh r).uses = true → s.line.isEmpty = false →
      ∃ op', (s.enter r now).progress = .pending op' ∧ op'.uses = true := by
    intro r hu hs
    simp only [enter, hs]
    refine ⟨_, rfl, ?_⟩
    cases r <;> first | rfl | cases hu
  cases op with
  | fresh r =>
    cases r with
    | send payload => exact henter rfl hs
    | pump => exact henter rfl hs
    | _ => cases hu
  | waiting ticket r =>
    have hs : s.atFront ticket = false := hs
    simp only [run, hs]
    exact ⟨_, rfl, hu⟩
  | _ => cases hs

end Turns

section Traffic

/-- What has come in on the latest link since it was dialed, and what has been delivered since. -/
structure Intake where
  bytes : List UInt8 := []
  delivered : List String := []

/-- What there is after an act that delivers messages. A dial that succeeds starts it anew. -/
def Intake.next (x : Intake) (b : Busy) (ms : List String) : Act → Intake
  | .turn i =>
    match (b.op? i).bind (Op.gets b.socket) with
    | some wire => { bytes := wire.arrived }
    | none => { x with delivered := x.delivered ++ ms }
  | .stir _ more _ _ _ => if b.socket.link.isSome then { x with bytes := x.bytes ++ more } else x
  | _ => x

/-- What there is after some acts. -/
def Busy.intake (b : Busy) (x : Intake) : List Act → Intake
  | [] => x
  | a :: as =>
    match b.next? a with
    | some (b', ms) => b'.intake (x.next b ms a) as
    | none => x

/-- What is delivered, and what is pending, comes of the bytes of one link alone. -/
def Carries (s : Socket) (x : Intake) : Prop :=
  ∃ pumped unread lines, x.bytes = pumped ++ unread ∧
    List.Forall₂ Leaves (segments pumped).1 lines ∧
    x.delivered = (if s.hasSink then lines.filterMap messageOf else []) ∧
    ∀ l, s.link = some l → l.wire.arrived = unread ∧ Leaves (segments pumped).2 l.pending

variable {b b' : Busy} {a : Act} {as : List Act} {s s' : Socket} {x : Intake} {ms : List String}
  {got : Option Wire} {t : Turn Socket Op}

namespace Carries

theorem of_link (h : Carries s x) (hs : s'.hasSink = s.hasSink) (hl : s'.link = s.link) :
    Carries s' x := by
  unfold Carries
  rwa [hs, hl]

/-- A link that has just been dialed. -/
theorem of_dialed {w : Wire} (h : Deals s got t) (hg : got = some w) :
    Carries t.state { bytes := w.arrived } := by
  obtain ⟨-, peer, hl⟩ := h.dials w hg
  refine ⟨[], w.arrived, [], rfl, .nil, by simp, fun l hl' => ?_⟩
  cases hl.symm.trans hl'
  exact ⟨rfl, .refl _⟩

theorem turn (h : Carries s x) (ht : Deals s got t) (hg : got = none) :
    Carries t.state { x with delivered := x.delivered ++ t.delivered } := by
  obtain ⟨pumped, unread, lines, hb, hk, hd, hlink⟩ := h
  unfold Carries
  rw [ht.sink]
  rcases ht.bides hg with ⟨hms, hl⟩ | ⟨l, hl, hms, hleft⟩
  · refine ⟨pumped, unread, lines, hb, hk, by rw [hms, List.append_nil, hd], fun l hl' => ?_⟩
    rcases hl with hl | hl
    · cases hl.symm.trans hl'
    rw [hl'] at hl
    obtain ⟨l₀, hl₀, he⟩ := Option.map_eq_some_iff.1 hl.symm
    obtain ⟨hp, ha⟩ := Prod.mk.inj he
    rw [← hp, ← ha]
    exact hlink l₀ hl₀
  · obtain ⟨ha, hp⟩ := hlink l hl
    obtain ⟨lines', hk', htaken, hp'⟩ := hp.takeLines hk unread
    rw [ha] at hms hleft
    refine ⟨pumped ++ unread, [], lines', by simpa using hb, hk', ?_, fun l' hl' => ?_⟩
    · show x.delivered ++ t.delivered = _
      rw [hd, hms, ← htaken]
      split <;> rfl
    · obtain ⟨hp'', ha'⟩ := hleft l' hl'
      rw [hp'']
      exact ⟨ha', hp'⟩

theorem next (h : Carries b.socket x) (hn : b.next? a = some (b', ms)) :
    Carries b'.socket (x.next b ms a) := by
  cases a with
  | call r =>
    cases hn
    exact h
  | turn i =>
    obtain ⟨op, hi, hb⟩ := Option.map_eq_some_iff.1 hn
    obtain ⟨rfl, rfl⟩ := Prod.mk.inj hb
    have hdeals := Deals.run b.socket op b.now
    simp only [Intake.next, hi, Option.bind_some]
    split
    · rename_i w hg
      exact of_dialed hdeals hg
    · rename_i hg
      exact h.turn hdeals hg
  | abandon i =>
    obtain ⟨op, hi, hb⟩ := Option.map_eq_some_iff.1 hn
    obtain ⟨rfl, -⟩ := Prod.mk.inj hb
    refine h.of_link ?_ (link_abandon op b.socket)
    unfold abandon
    split <;> rfl
  | stir network more ended room broken =>
    cases hn
    obtain ⟨pumped, unread, lines, hb, hk, hd, hlink⟩ := h
    simp only [Intake.next]
    rcases hl : b.socket.link with _ | l
    · exact ⟨pumped, unread, lines, hb, hk, hd, by simp⟩
    · obtain ⟨rfl, hp⟩ := hlink l hl
      refine ⟨pumped, l.wire.arrived ++ more, lines, by simp [hb], hk, hd, fun l' hl' => ?_⟩
      cases hl'
      exact ⟨rfl, hp⟩
  | pass ms =>
    cases hn
    exact h

theorem run {ok : Busy → Act → Prop} (h : Leads ok b as b') (hx : Carries b.socket x) :
    Carries b'.socket (b.intake x as) := by
  induction h generalizing x with
  | nil => exact hx
  | cons _ hn _ ih =>
    simp only [Busy.intake, hn]
    exact ih (hx.next hn)

end Carries

theorem Tells.next (h : b.socket.Tells) (hn : b.next? a = some (b', ms)) : b'.socket.Tells := by
  cases a with
  | turn i =>
    obtain ⟨op, -, hb⟩ := Option.map_eq_some_iff.1 hn
    obtain ⟨rfl, -⟩ := Prod.mk.inj hb
    exact h.run op b.now
  | abandon i =>
    obtain ⟨op, -, hb⟩ := Option.map_eq_some_iff.1 hn
    obtain ⟨rfl, -⟩ := Prod.mk.inj hb
    exact h.abandon op
  | stir network more ended room broken =>
    cases hn
    simpa [Tells] using h
  | _ =>
    cases hn
    exact h

theorem Tells.of_leads {ok : Busy → Act → Prop} (h : Leads ok b as b') (hb : b.socket.Tells) :
    b'.socket.Tells := by
  induction h with
  | nil => exact hb
  | cons _ hn _ ih => exact ih (hb.next hn)

/-- No dial succeeds. -/
def Undialed (b : Busy) (a : Act) : Prop :=
  ∀ i op, a = .turn i → b.op? i = some op → op.gets b.socket = none

/-- A socket without a link has none until a dial succeeds. -/
theorem Undialed.down (ha : Undialed b a) (hl : b.socket.link = none)
    (hn : b.next? a = some (b', ms)) : b'.socket.link = none := by
  cases a with
  | turn i =>
    obtain ⟨op, hi, hb⟩ := Option.map_eq_some_iff.1 hn
    obtain ⟨rfl, -⟩ := Prod.mk.inj hb
    rcases (Deals.run b.socket op b.now).bides (ha i op rfl hi) with ⟨-, hl' | hl'⟩ | ⟨l, hl', -⟩
    · exact hl'
    · simpa [hl] using hl'
    · cases hl.symm.trans hl'
  | abandon i =>
    obtain ⟨op, hi, hb⟩ := Option.map_eq_some_iff.1 hn
    obtain ⟨rfl, -⟩ := Prod.mk.inj hb
    exact (link_abandon op b.socket).trans hl
  | stir network more ended room broken =>
    cases hn
    simp [hl]
  | _ =>
    cases hn
    exact hl

theorem Undialed.run (h : Leads Undialed b as b') (hl : b.socket.link = none) :
    b'.socket.link = none := by
  induction h with
  | nil => exact hl
  | cons ha hn _ ih => exact ih (ha.down hl hn)

/-- However operations overlap and are abandoned, and whatever the network does, the socket tells
whether it has a link. The turn that finds that the link has ended or cannot be written to gives it
up. From then on whoever sends or pumps is told so, or waits in line, until a dial succeeds, and
what is delivered are messages of what has come in on the latest link alone. -/
theorem truthful_of_run {network : Network} {hasSink : Bool} {dialTimeout : Nat}
    (h : Leads (fun _ _ => True) { socket := { network, hasSink, dialTimeout } } as b) :
    b.socket.connected = b.socket.link.isSome ∧
      (∀ i op l, b.op? i = some op → b.socket.link = some l → op.uses = true →
        op.served b.socket = true → op.cuts l = true →
        ∃ b' ms, b.next? (.turn i) = some (b', ms) ∧ b'.socket.link = none ∧
          b'.socket.connected = false ∧
          ((b.socket.run op b.now).progress = .done (.ok StatusCode.refused) ∨
            (b.socket.run op b.now).progress = .done (.ok StatusCode.notSent))) ∧
      (b.socket.link = none → ∀ as' b', Leads Undialed b as' b' →
        b'.socket.link = none ∧ b'.socket.connected = false ∧
          ∀ i op, b'.op? i = some op → op.uses = true →
            (op.served b'.socket = true → (b'.socket.run op b'.now).progress
              = .done (.ok StatusCode.notConnected)) ∧
            (op.served b'.socket = false → ∃ op',
              (b'.socket.run op b'.now).progress = .pending op' ∧ op'.uses = true)) ∧
      Carries b.socket (Busy.intake { socket := { network, hasSink, dialTimeout } } {} as) := by
  have htells : b.socket.Tells := Tells.of_leads h rfl
  refine ⟨htells, ?_, ?_, ?_⟩
  · intro i op l hi hl hu hs hc
    have hfails : Fails b.socket op (b.socket.run op b.now) := .run hu hs
    obtain ⟨hnone, hp⟩ := hfails.cut l hl hc
    have htells' : (b.socket.run op b.now).state.Tells := htells.run op b.now
    rw [Tells, hnone] at htells'
    exact ⟨_, _, by rw [Busy.next?, hi]; rfl, hnone, htells', hp⟩
  · intro hl as' b' h'
    have hdown := Undialed.run h' hl
    have htells' : b'.socket.Tells := htells.of_leads h'
    rw [Tells, hdown] at htells'
    exact ⟨hdown, htells', fun i op _ hu => ⟨fun hs => (Fails.run hu hs).absent hdown,
      pending_of_unserved hu⟩⟩
  · exact Carries.run h ⟨[], [], [], rfl, .nil, by simp, by simp⟩

/-- A socket that has a sink, on a network whose peers answer. -/
def attended : Busy := { socket := { network := answering, hasSink := true } }

/-- The other end hangs up when a line has begun, and a pump has yet to find that out. -/
def hungUpActs : List Act :=
  [.call (.connect server), .turn 0, .call .pump, .stir answering [104, 105] false none none,
    .turn 1, .call .pump, .stir answering [33] true none none]

/-- Then a send is called, and a connect, and a line comes in on the new link. -/
def relinkedActs : List Act :=
  hungUpActs ++ [.turn 2, .call (.send "a"), .turn 3, .call (.connect server), .turn 4,
    .stir answering [107, 10] false none none]

theorem truthful_of_run_relinked :
    ∃ b b₁ b₂ b₃ : Busy, ∃ l l' : Link, ∃ ms,
      Leads (fun _ _ => True) attended hungUpActs b ∧ b.socket.link = some l ∧
        l.pending = [104, 105] ∧ l.wire.ended = true ∧
      b.next? (.turn 2) = some (b₁, ms) ∧ b₁.socket.link = none ∧ b₁.socket.connected = false ∧
      Leads Undialed b₁ [.call (.send "a")] b₂ ∧
        (b₂.socket.run (.fresh (.send "a")) b₂.now).progress
          = .done (.ok StatusCode.notConnected) ∧
      Leads (fun _ _ => True) attended relinkedActs b₃ ∧ b₃.socket.link = some l' ∧
        l'.wire.arrived = [107, 10] ∧
      b₃.socket.connected = true ∧ Carries b₃.socket { bytes := [107, 10] } := by
  obtain ⟨b, b₁, b₂, b₃, l, l', ms, h, hl, hp, he, hop, hline, hn, h₁, hsend, hline₂, h₂, h₃, hl',
      ha, hx⟩ : ∃ b b₁ b₂ b₃ : Busy, ∃ l l' : Link, ∃ ms,
        Leads (fun _ _ => True) attended hungUpActs b ∧ b.socket.link = some l ∧
          l.pending = [104, 105] ∧ l.wire.ended = true ∧
          b.op? 2 = some (.fresh .pump) ∧ b.socket.line = [] ∧
        b.next? (.turn 2) = some (b₁, ms) ∧
        Leads (fun _ _ => True) attended (hungUpActs ++ [.turn 2]) b₁ ∧
        b₂.op? 3 = some (.fresh (.send "a")) ∧ b₂.socket.line = [] ∧
        Leads Undialed b₁ [.call (.send "a")] b₂ ∧
        Leads (fun _ _ => True) attended relinkedActs b₃ ∧ b₃.socket.link = some l' ∧
          l'.wire.arrived = [107, 10] ∧ attended.intake {} relinkedActs = { bytes := [107, 10] } :=
    ⟨_, _, _, _, _, _, _,
      .cons trivial rfl <| .cons trivial rfl <| .cons trivial rfl <| .cons trivial rfl <|
        .cons trivial rfl <| .cons trivial rfl <| .cons trivial rfl <| .nil _,
      rfl, rfl, rfl, rfl, rfl, rfl,
      .cons trivial rfl <| .cons trivial rfl <| .cons trivial rfl <| .cons trivial rfl <|
        .cons trivial rfl <| .cons trivial rfl <| .cons trivial rfl <| .cons trivial rfl <| .nil _,
      rfl, rfl, .cons (by simp [Undialed]) rfl <| .nil _,
      .cons trivial rfl <| .cons trivial rfl <| .cons trivial rfl <| .cons trivial rfl <|
        .cons trivial rfl <| .cons trivial rfl <| .cons trivial rfl <| .cons trivial rfl <|
        .cons trivial rfl <| .cons trivial rfl <| .cons trivial rfl <| .cons trivial rfl <|
        .cons trivial rfl <| .nil _,
      rfl, rfl, rfl⟩
  -- the pump gives the link up
  obtain ⟨-, hgives, -, -⟩ := truthful_of_run h
  obtain ⟨b₁', ms', hn', hnone, hdown, -⟩ :=
    hgives 2 _ l hop hl rfl (by simp [Op.served, hline]) he
  obtain ⟨rfl, rfl⟩ := Prod.mk.inj (Option.some.inj (hn'.symm.trans hn))
  -- the send is told that there is none
  obtain ⟨-, -, htold, -⟩ := truthful_of_run h₁
  obtain ⟨-, -, huses⟩ := htold hnone _ _ h₂
  -- the connect gets another one
  obtain ⟨htells, -, -, hcarries⟩ := truthful_of_run h₃
  rw [hl'] at htells
  refine ⟨b, _, b₂, b₃, l, l', ms', h, hl, hp, he, hn, hnone, hdown, h₂,
    (huses 3 _ hsend rfl).1 (by simp [Op.served, hline₂]), h₃, hl', ha, htells, ?_⟩
  exact hx ▸ hcarries

end Traffic

end SessionKeeper.Socket

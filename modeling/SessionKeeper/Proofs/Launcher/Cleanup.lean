import SessionKeeper.Proofs.Keeper.Cleanups
import SessionKeeper.Proofs.Keeper.Takings
import SessionKeeper.Proofs.Launcher.Runs

/-!
# What a run leaves behind

A run whose keeper nobody else calls makes one call after another, and on every way out the last of
them is to clean up: after a refused connection, at the shutdown, at the end of the input, at a line
that cannot be read, and when the output fails. `Stands` says for each phase what has come of the
calls so far. When the call to clean up has answered, every session is over and the state is
disconnected (`Spent`), over any transport; the link is down if the transport is as `Shuts` says and
did not break in that call (`cleaned_of_run`).
-/

namespace SessionKeeper

variable {State Op : Type}

/-- A call that is made. -/
def Event.asks : Event → Bool
  | called _ _ => true
  | _ => false

/-- A call that is made is one of the events that no actor brings about by itself. -/
theorem Event.asks_of_outer (es : List Event) :
    (es.filter Event.outer).filter Event.asks = es.filter Event.asks := by
  rw [List.filter_filter]
  congr 1
  funext e
  cases e <;> rfl

namespace Keeper

variable {T : Transport State Op} {k k' : Keeper State Op} {a : Actor} {c : Nat}

/-- No actor makes a call. -/
theorem asks_of_move (hm : Move T a k k') :
    k'.history.filter Event.asks = k.history.filter Event.asks := by
  rw [← Event.asks_of_outer k'.history, ← Event.asks_of_outer k.history]
  rcases outer_of_move hm with ho | ⟨c, -, ho⟩
  · rw [ho]
  · rw [ho]
    rfl

namespace Alone

theorem skims (hk : k.Skims k') (h : Alone c k) : Alone c k' := by
  obtain ⟨queue, history, rfl⟩ := hk.frame
  exact ⟨h.one.of_same rfl rfl rfl fun hc => ⟨_, _, _, hc⟩,
    h.awaited.of_same rfl rfl (fun _ _ hc => hc) id, h.others⟩

/-- Once its call has answered, none is under way. -/
theorem free {answer : Answer} (h : Alone c k) (hc : k.calls[c]? = some (.answered answer))
    (n : Nat) : Alone n k := by
  refine ⟨h.one, h.awaited, fun {c' p} hp _ => ?_⟩
  by_cases hcc : c' = c
  · subst hcc
    obtain rfl := Option.some.inj (hc.symm.trans hp)
    rfl
  · exact h.others hp hcc

end Alone

/-- No call but that of `o` is under way. -/
def Only (o : Option Nat) (k : Keeper State Op) : Prop :=
  ∀ c, (∀ n, o = some n → n = c) → Alone c k

theorem Only.alone {o : Option Nat} (h : k.Only o) (ho : o = some c) : Alone c k := by
  refine h c fun n hn => ?_
  rw [ho] at hn
  exact (Option.some.inj hn).symm

/-- The first call has answered, and how. -/
def Told (b : Bool) (k : Keeper State Op) : Prop :=
  ∃ answer, k.calls[0]? = some (.answered answer) ∧ (Launcher.Run.outcomeOf answer).success = b

namespace Told

variable {b : Bool}

theorem of_kept (h : k.Told b) (hc : ∀ answer, k.calls[0]? = some (.answered answer) →
    k'.calls[0]? = some (.answered answer)) : k'.Told b := by
  obtain ⟨answer, ha, ho⟩ := h
  exact ⟨answer, hc answer ha, ho⟩

theorem skims (h : k.Told b) (hk : k.Skims k') : k'.Told b := by
  obtain ⟨queue, history, rfl⟩ := hk.frame
  exact h

theorem call (h : k.Told b) (r : CallRequest) : (k.call r).Told b :=
  h.of_kept fun _ hc => getElem?_concat_eq_some.2 (.inl hc)

end Told

/-- A call that is yet to be made has done nothing. -/
def Unmade (k : Keeper State Op) : Prop :=
  ∀ c, k.calls.length ≤ c → k.deeds (Event.by (.call c)) = []

theorem Unmade.call (h : Unmade k) (r : CallRequest) : Unmade (k.call r) := by
  intro c hc
  refine (deeds_of_befalls _ (.call r)).trans (h c (Nat.le_trans ?_ hc))
  simp [Keeper.call, record]

theorem Unmade.skims (h : Unmade k) (hk : k.Skims k') : Unmade k' := by
  intro c hc
  rw [hk.deeds]
  obtain ⟨queue, history, rfl⟩ := hk.frame
  exact h c hc

theorem Unmade.winds (h : Unmade k) : Winds T k.calls.length .cleanup (k.call .cleanup) :=
  .of_call (h _ (Nat.le_refl _))

/-- Nothing has been written past `w`, and no line has been sent. -/
structure Unheard (w written : List UInt8) (k : Keeper State Op) : Prop where
  written : written = w
  unsent : ∀ c payload, .called c (.send payload) ∉ k.history

theorem Unheard.of_asks {w written : List UInt8} (h : Unheard w written k)
    (hk : k'.history.filter Event.asks = k.history.filter Event.asks) : Unheard w written k' := by
  refine ⟨h.written, fun c payload hc => h.unsent c payload ?_⟩
  have hmem : Event.called c (.send payload) ∈ k'.history.filter Event.asks :=
    List.mem_filter.2 ⟨hc, rfl⟩
  rw [hk] at hmem
  exact (List.mem_filter.1 hmem).1

theorem Unheard.call {w written : List UInt8} (h : Unheard w written k) {r : CallRequest}
    (hr : ∀ payload, r ≠ .send payload) : Unheard w written (k.call r) := by
  refine ⟨h.written, fun c payload hc => ?_⟩
  rcases List.mem_cons.1 hc with hc | hc
  · exact hr payload (Event.called.inj hc).2.symm
  · exact h.unsent c payload hc

end Keeper

namespace Launcher

open Keeper

variable {T : Transport State Op} {r r' : Run State Op} {w : List UInt8}

/-- The answer that a run has waited for. -/
theorem Run.calls_of_answer? {c : Nat} {a : Answer} (h : r.answer? c = some a) :
    r.keeper.calls[c]? = some (.answered a) := by
  obtain ⟨p, hp, ha⟩ := Option.bind_eq_some_iff.1 h
  rw [hp]
  cases p <;> cases ha
  rfl

/-- A step of a run whose keeper nobody else calls or lets go. -/
def RunStep.Sole : RunStep State → Prop
  | keeper (.call _) | keeper .drop => False
  | _ => True

/-- What has come of the calls of a run that has written `written`, `w` of it before it began. -/
inductive Stands (T : Transport State Op) (w written : List UInt8) (k : Keeper State Op) :
    Phase → Prop
  | connecting (hu : Unheard w written k) : Stands T w written k (.connecting 0)
  | dismissing {c : Nat} {reason : String} (ht : k.Told false) (hu : Unheard w written k)
      (hw : Wraps T c k) : Stands T w written k (.dismissing c reason)
  | looping (ht : k.Told true) : Stands T w written k .looping
  | forwarding {c : Nat} (ht : k.Told true) : Stands T w written k (.forwarding c)
  | cleaning {c : Nat} {e : Ending} (ht : k.Told true) (hw : Wraps T c k) :
      Stands T w written k (.cleaning c e)
  | failed {reason : String} (ht : k.Told false) (hu : Unheard w written k) (hd : Spent k) :
      Stands T w written k (.finished (.error reason))
  | finished {e : Ending} (ht : k.Told true) (hd : Spent k) : Stands T w written k (.finished e)

theorem Stands.of_keeper {written : List UInt8} {k k' : Keeper State Op}
    (h : Stands T w written k r.phase) (ht : ∀ b, k.Told b → k'.Told b)
    (ha : k'.history.filter Event.asks = k.history.filter Event.asks)
    (hw : ∀ c, r.awaited? = some c → Wraps T c k → Wraps T c k') (hd : Spent k → Spent k') :
    Stands T w written k' r.phase := by
  unfold Run.awaited? at hw
  generalize r.phase = p at h hw
  cases h with
  | connecting hu => exact .connecting (hu.of_asks ha)
  | dismissing hb hu h => exact .dismissing (ht _ hb) (hu.of_asks ha) (hw _ rfl h)
  | looping hb => exact .looping (ht _ hb)
  | forwarding hb => exact .forwarding (ht _ hb)
  | cleaning hb h => exact .cleaning (ht _ hb) (hw _ rfl h)
  | failed hb hu h => exact .failed (ht _ hb) (hu.of_asks ha) (hd h)
  | finished hb h => exact .finished (ht _ hb) (hd h)

/-- A run whose keeper nobody else calls: no call but that which it waits for is under way. -/
structure Minds (T : Transport State Op) (w : List UInt8) (r : Run State Op) : Prop where
  held : r.keeper.held = true
  unmade : r.keeper.Unmade
  only : r.keeper.Only r.awaited?
  stands : Stands T w r.console.written r.keeper r.phase

namespace Minds

theorem move {a : Actor} {k' : Keeper State Op} (hm : Move T a r.keeper k')
    (ho : r.keeper.Only r.awaited?) (hs : Stands T w r.console.written r.keeper r.phase) :
    k'.Only r.awaited? ∧ Stands T w r.console.written k' r.phase := by
  refine ⟨fun c hc => (ho c hc).move hm, hs.of_keeper (fun b ht => ?_) (asks_of_move hm)
    (fun c hc => Wraps.move hm (ho.alone hc)) (Spent.move hm)⟩
  exact ht.of_kept fun answer hc => (Answers.move hm).answered hc rfl

theorem befall {s : Step State} {k' : Keeper State Op} (hcall : ∀ q, s ≠ .call q)
    (hb : Befalls r.keeper s k') (ho : r.keeper.Only r.awaited?)
    (hs : Stands T w r.console.written r.keeper r.phase) :
    k'.Only r.awaited? ∧ Stands T w r.console.written k' r.phase := by
  refine ⟨fun c hc => (ho c hc).befall hcall hb, hs.of_keeper (fun b ht => ht.of_kept ?_) ?_
    (fun c _ => Wraps.befall hcall hb) (Spent.befall hcall hb)⟩
  · cases hb with
    | call q => exact (hcall q rfl).elim
    | _ => exact fun _ hc => hc
  · cases hb with
    | call q => exact (hcall q rfl).elim
    | _ => rfl

theorem keeper {s : Step State} {k' : Keeper State Op} (hs : (RunStep.keeper s).Sole)
    (hn : r.keeper.next? T s = some k') (h : Minds T w r) : Minds T w { r with keeper := k' } := by
  have hcall : ∀ q, s ≠ .call q := by
    rintro q rfl
    exact hs
  obtain ⟨ha, hst⟩ := next?_keeps
    (P := fun k => k.Only r.awaited? ∧ Stands T w r.console.written k r.phase)
    (fun {a k k'} hm h => move (r := { r with keeper := k }) hm h.1 h.2)
    (fun k hb => befall hcall hb h.only h.stands) hn ⟨h.only, h.stands⟩
  refine ⟨next?_keeps (P := fun k => k.held = true)
    (fun hm hh => (Answers.move hm).held.trans hh) (fun k hb => ?_) hn h.held,
    deeds_of_unmade (.cons hn (.nil _)) h.unmade, ha, hst⟩
  cases hb with
  | drop => exact hs.elim
  | _ => exact h.held

theorem free {c : Nat} {a : Answer} (h : Minds T w r) (hw : r.awaited? = some c)
    (ha : r.answer? c = some a) (n : Nat) : Alone n r.keeper :=
  (h.only.alone hw).free (Run.calls_of_answer? ha) n

theorem loop (h : Minds T w r) (hp : r.phase = .looping) : (∀ c, Alone c r.keeper) ∧
    r.keeper.Told true := by
  refine ⟨fun c => h.only c fun n hn => ?_, ?_⟩
  · simp [Run.awaited?, hp] at hn
  · have hst := h.stands
    rw [hp] at hst
    cases hst with
    | looping ht => exact ht

/-- With no call under way, the run goes on by itself. -/
theorem rests (h : Minds T w r) (hk : r.keeper.Skims r'.keeper) (ha : ∀ c, Alone c r.keeper)
    (hst : Stands T w r'.console.written r'.keeper r'.phase) : Minds T w r' := by
  refine ⟨?_, h.unmade.skims hk, fun c _ => (ha c).skims hk, hst⟩
  obtain ⟨queue, history, hr⟩ := hk.frame
  exact hr ▸ h.held

/-- With no call under way, the run makes the next. -/
theorem begins {k : Keeper State Op} {q : CallRequest} (h : Minds T w r) (hk : r.keeper.Skims k)
    (ha : ∀ c, Alone c r.keeper) (hr : r'.keeper = k.call q)
    (hw : r'.awaited? = some k.calls.length)
    (hst : Stands T w r'.console.written r'.keeper r'.phase) : Minds T w r' := by
  have hheld : k.held = true := by
    obtain ⟨queue, history, rfl⟩ := hk.frame
    exact h.held
  refine ⟨hr ▸ hheld, hr ▸ (h.unmade.skims hk).call q, fun c hc => ?_, hst⟩
  obtain rfl := hc _ hw
  exact hr ▸ ((ha _).skims hk).call hheld q

theorem advance {s : RunStep State} (hs : s.Sole) (hadv : Advances T r s r') (h : Minds T w r) :
    Minds T w r' := by
  have hst := h.stands
  cases hadv with
  | keeper hn => exact h.keeper hs hn
  | outside => exact ⟨h.held, h.unmade, h.only, hst⟩
  | @connected c a hp ha ho =>
    rw [hp] at hst
    cases hst
    have hfree := h.free (c := 0) (by rw [Run.awaited?, hp]) ha
    exact h.rests .refl hfree (.looping ⟨a, Run.calls_of_answer? ha, ho⟩)
  | @rejected c a reason hp ha ho =>
    rw [hp] at hst
    cases hst with
    | connecting hu =>
      have hfree := h.free (c := 0) (by rw [Run.awaited?, hp]) ha
      exact h.begins .refl hfree rfl rfl (.dismissing (Told.call ⟨a, Run.calls_of_answer? ha, ho⟩ _)
        (hu.call (by simp)) (.inl h.unmade.winds))
  | @dismissed c a reason hp ha =>
    rw [hp] at hst
    cases hst with
    | dismissing ht hu hw =>
      have hfree := h.free (c := c) (by rw [Run.awaited?, hp]) ha
      exact h.rests .refl hfree (.failed ht hu (hw.spent (Run.calls_of_answer? ha)))
  | @forwarded c a ls hp ha =>
    rw [hp] at hst
    cases hst with
    | forwarding ht =>
      have hfree := h.free (c := c) (by rw [Run.awaited?, hp]) ha
      exact h.rests (.say ls .refl) hfree (.looping ht)
  | @cleaned c a e ls hp ha =>
    rw [hp] at hst
    cases hst with
    | cleaning ht hw =>
      have hfree := h.free (c := c) (by rw [Run.awaited?, hp]) ha
      have hd := (hw.spent (Run.calls_of_answer? ha)).move (.say (T := T) (a := .call 0) ls)
      exact h.rests (.say ls .refl) hfree (.finished ht hd)
  | tends hp hk =>
    obtain ⟨ha, ht⟩ := h.loop hp
    refine h.rests hk ha ?_
    rw [hp]
    exact .looping (ht.skims hk)
  | sends hp =>
    obtain ⟨ha, ht⟩ := h.loop hp
    exact h.begins .refl ha rfl rfl (.forwarding (ht.call _))
  | leaves e hp hk =>
    obtain ⟨ha, ht⟩ := h.loop hp
    exact h.begins hk ha rfl rfl (.cleaning ((ht.skims hk).call _)
      (.inl (h.unmade.skims hk).winds))

theorem start {kind : TransportKind} {config : LinkConfig} {transport : State} {installed : Bool}
    {input : Input} {console : Console} :
    Minds T console.written (.fresh kind config transport installed input console) := by
  have hfresh : Alone 0 (Keeper.fresh config transport installed : Keeper State Op) :=
    ⟨oneSession_fresh, .fresh, by simp [Keeper.fresh]⟩
  have hunmade : (Keeper.fresh config transport installed : Keeper State Op).Unmade :=
    fun _ _ => rfl
  have hsay : ∀ l : LogRecord, (Keeper.fresh config transport installed : Keeper State Op).Skims
      ((Keeper.fresh config transport installed).say [l]) := fun l => .say [l] .refl
  refine ⟨rfl, (hunmade.skims (hsay _)).call _, fun c hc => ?_, .connecting ⟨rfl, ?_⟩⟩
  · obtain rfl := hc 0 rfl
    exact Alone.call (hfresh.skims (hsay _)) rfl _
  · simp [Run.fresh, Run.start, Keeper.call, record, log, Keeper.fresh]

theorem run {ss : List (RunStep State)} (h : Leads T RunStep.Sole r ss r') (hr : Minds T w r) :
    Minds T w r' :=
  h.invariant (P := Minds T w) (fun hs hadv hr => hr.advance hs hadv) hr

/-- A run finishes right after its last call has had its last turn. -/
theorem offline {up : State → Bool} {r₀ r₁ : Run State Op} {c : Nat} {ending : Ending}
    (hT : T.Shuts up) (h : Minds T w r₀) (hw : r₀.awaited? = some c)
    (h₁ : r₀.next? T (.keeper (.resume (.call c))) = some r₁) (h₂ : r₁.next? T .proceed = some r)
    (hp : r.phase = .finished ending)
    (hfault : ∀ f, .returned (.call c) (.error f) ∉ r.keeper.history)
    (hquery : .invoked (.call c) .disconnect ∈ r.keeper.history ∨
      ∃ b, T.isUp r.keeper.transport = .ok b) : r.keeper.Offline up := by
  obtain ⟨k, hk, rfl⟩ := Option.map_eq_some_iff.1 h₁
  obtain ⟨hready, rfl⟩ := ready_of_resume hk
  have halone := h.only.alone hw
  have hst := h.stands
  cases Advances.of_next h₂ with
  | outside =>
    have hphase : r₀.phase = .finished ending := hp
    simp [Run.awaited?, hphase] at hw
  | connected => cases hp
  | rejected => cases hp
  | forwarded => cases hp
  | dismissed hp' ha =>
    have hphase : r₀.phase = _ := hp'
    rw [Run.awaited?, hphase] at hw
    obtain rfl := Option.some.inj hw
    rw [hphase] at hst
    cases hst with
    | dismissing _ _ hwraps =>
      exact hwraps.offline hT halone hready (Run.calls_of_answer? ha) hfault hquery
  | cleaned ls hp' ha =>
    have hphase : r₀.phase = _ := hp'
    rw [Run.awaited?, hphase] at hw
    obtain rfl := Option.some.inj hw
    rw [hphase] at hst
    cases hst with
    | cleaning _ hwraps =>
      refine hwraps.offline hT halone hready (Run.calls_of_answer? ha) (fun f hf => hfault f ?_)
        (hquery.imp_left ?_)
      · exact List.mem_append_right _ hf
      · simp [say]

end Minds

/-- On every way out of a run whose keeper nobody else calls, all sessions are over and the state is
disconnected; if the first call could not connect, the run ends with an error, and has neither
written nor sent anything. When the last call has just had its last turn the link is down, unless
the transport broke in it, or in the question for the link if that was all it did. -/
theorem cleaned_of_run {kind : TransportKind} {config : LinkConfig} {transport : State}
    {installed : Bool} {input : Input} {console : Console} {ss : List (RunStep State)}
    {ending : Ending}
    (h : Leads T RunStep.Sole (.fresh kind config transport installed input console) ss r)
    (hp : r.phase = .finished ending) :
    r.keeper.state = .disconnected ∧
    (∀ (i : Nat) (w : Watch Op), r.keeper.watches[i]? = some w → w.phase.over = true) ∧
    (∀ (j : Nat) (e : Episode Op), r.keeper.episodes[j]? = some e → e.phase.over = true) ∧
    (∃ a, r.answer? 0 = some a ∧ ((Run.outcomeOf a).success = false →
      (∃ reason, ending = .error reason) ∧ r.console.written = console.written ∧
        ∀ c payload, .called c (.send payload) ∉ r.keeper.history)) ∧
    ∀ up : State → Bool, T.Shuts up → ∀ (ss₀ : List (RunStep State)) (r₀ r₁ : Run State Op)
      (c : Nat),
      Leads T RunStep.Sole (.fresh kind config transport installed input console) ss₀ r₀ →
      r₀.awaited? = some c → r₀.next? T (.keeper (.resume (.call c))) = some r₁ →
      r₁.next? T .proceed = some r →
      (∀ f, .returned (.call c) (.error f) ∉ r.keeper.history) →
      (.invoked (.call c) .disconnect ∈ r.keeper.history ∨
        ∃ b, T.isUp r.keeper.transport = .ok b) →
      r.keeper.Offline up := by
  have hm := (Minds.start (T := T)).run h
  have hst := hm.stands
  rw [hp] at hst
  have hcome : Spent r.keeper ∧ ∃ a, r.keeper.calls[0]? = some (.answered a) ∧
      ((Run.outcomeOf a).success = false → (∃ reason, ending = .error reason) ∧
        Unheard console.written r.console.written r.keeper) := by
    cases hst with
    | failed ht hu hd =>
      obtain ⟨a, ha, -⟩ := ht
      exact ⟨hd, a, ha, fun _ => ⟨⟨_, rfl⟩, hu⟩⟩
    | finished ht hd =>
      obtain ⟨a, ha, ho⟩ := ht
      exact ⟨hd, a, ha, fun hf => absurd (ho.symm.trans hf) (by simp)⟩
  obtain ⟨hd, a, ha, hresult⟩ := hcome
  refine ⟨hd.quiet.state, fun i w => hd.quiet.ended, fun j e => hd.quiet.episode_over,
    ⟨a, by simp [Run.answer?, ha, CallPhase.answer?], fun hf => ?_⟩,
    fun up hT ss₀ r₀ r₁ c h₀ hw h₁ h₂ => (Minds.start.run h₀).offline hT hw h₁ h₂ hp⟩
  obtain ⟨herror, hu⟩ := hresult hf
  exact ⟨herror, hu.written, hu.unsent⟩

/-- The link is lost, and while an attempt to connect is in flight the shutdown comes with an
error. -/
def shutdownSteps : List (RunStep Rehearsal.Stage) :=
  [.keeper (.resume (.call 0)), .keeper (.resume (.call 0)), .proceed,
    .keeper (.resume (.watch 0)), .keeper (.disturb { connectDelay := 50 }), .keeper (.pass 10),
    .keeper (.resume (.watch 0)), .keeper (.resume (.episode 0)), .shutDown (.error "signal"),
    .take .shutdown, .keeper (.resume (.call 1)), .keeper (.resume (.call 1)),
    .keeper (.resume (.watch 0)), .keeper (.pass 50), .keeper (.resume (.episode 0)),
    .keeper (.resume (.watch 0))]

theorem cleaned_of_run_shutdown : ∃ ss r,
    Leads Rehearsal.stage RunStep.Sole (.fresh .tcp {} {} true {} {}) ss r ∧
    r.phase = .finished (.error "signal") ∧ r.keeper.state = .disconnected ∧
    (∀ (i : Nat) (w : Watch Rehearsal.Op), r.keeper.watches[i]? = some w → w.phase.over = true) ∧
    (∀ (j : Nat) (e : Episode Rehearsal.Op), r.keeper.episodes[j]? = some e →
      e.phase.over = true) ∧
    r.keeper.installed = true ∧ r.keeper.transport.up = false := by
  obtain ⟨r₀, r₁, r, h₀, hw, h₁, h₂, hp, hd, hu, hi⟩ : ∃ r₀ r₁ r,
      Leads Rehearsal.stage RunStep.Sole (.fresh .tcp {} {} true {} {}) shutdownSteps r₀ ∧
      r₀.awaited? = some 1 ∧
      r₀.next? Rehearsal.stage (.keeper (.resume (.call 1))) = some r₁ ∧
      r₁.next? Rehearsal.stage .proceed = some r ∧ r.phase = .finished (.error "signal") ∧
      r.keeper.deeds (Event.by (.call 1)) = [] ∧
      Rehearsal.stage.isUp r.keeper.transport = .ok false ∧ r.keeper.installed = true :=
    ⟨_, _, _, .cons trivial rfl <| .cons trivial rfl <| .cons trivial rfl <|
      .cons trivial rfl <| .cons trivial rfl <| .cons trivial rfl <| .cons trivial rfl <|
      .cons trivial rfl <| .cons trivial rfl <| .cons trivial rfl <| .cons trivial rfl <|
      .cons trivial rfl <| .cons trivial rfl <| .cons trivial rfl <| .cons trivial rfl <|
      .cons trivial rfl <| .nil _, rfl, rfl, rfl, rfl, rfl, rfl, rfl⟩
  have h := h₀.append (.cons (s := .keeper (.resume (.call 1))) trivial h₁
    (.cons (s := .proceed) trivial h₂ (.nil r)))
  obtain ⟨hstate, hwatches, hepisodes, -, hdown⟩ := cleaned_of_run h hp
  refine ⟨_, r, h, hp, hstate, hwatches, hepisodes, hi,
    hdown _ shuts_stage _ r₀ r₁ 1 h₀ hw h₁ h₂ (fun f hf => ?_) (.inr ⟨_, hu⟩) hi⟩
  have hmem := mem_deeds.2 ⟨hf, rfl, show Event.by (.call 1) _ = true by simp [Event.by]⟩
  simp [hd] at hmem

end Launcher

end SessionKeeper

import SessionKeeper.Proofs.Keeper.Stops

/-!
# What a call to end the session leaves behind

A call to disconnect or to clean up that no other call overlaps finds every session over but the
one in the slot (`Awaited`). It waits for that one or aborts it, so all workers are over when it
closes the transport, and nobody is left to open the link again (`Quiet`). The link is closed and
stays so (`closed_of_run`), if the transport is as `Shuts` says: it tells the truth about its link,
and a disconnect that does not break closes it.
-/

namespace SessionKeeper

variable {State Op : Type}

/-- What a session is ended with. -/
def Ending.request : Ending → CallRequest
  | disconnect => .disconnect
  | cleanup => .cleanup

/-- The operations that carry out a request. -/
inductive Transport.Carries (T : Transport State Op) (r : Request) : Op → Prop
  | start : Carries T r (T.start r)
  | pending {op op' : Op} {now : Nat} {s : State} : Carries T r op →
      (T.run op now s).progress = .pending op' → Carries T r op'

structure Transport.Shuts (T : Transport State Op) (up : State → Bool) : Prop where
  truth : ∀ {s : State} {b : Bool}, T.isUp s = .ok b → up s = b
  closes : ∀ {op : Op} {now : Nat} {s : State} {code : StatusCode}, T.Carries .disconnect op →
    (T.run op now s).progress = .done (.ok code) → up (T.run op now s).state = false

/-- Nobody calls to connect, and the transport does not change by itself. -/
def Step.Spares : Step State → Prop
  | call (.connect _ _) | disturb _ => False
  | _ => True

/-- A call that was answered or soon will be, without a turn of the transport. -/
def CallPhase.calm : CallPhase Op → Bool
  | opened (.connect _ _) => false
  | opened _ | claiming .cleanup | answered _ => true
  | _ => false

namespace Keeper

variable {T : Transport State Op} {k k' : Keeper State Op} {i c : Nat} {a : Actor}

section Quiet

/-- No session is under way, nor a call that could begin one. -/
structure Quiet (k : Keeper State Op) : Prop where
  one : OneSession k
  ended : ∀ {i : Nat} {w : Watch Op}, k.watches[i]? = some w → w.phase.over = true
  slot : k.slot = none
  calls : ∀ {c : Nat} {p : CallPhase Op}, k.calls[c]? = some p → p.calm = true
  state : k.state = .disconnected

/-- What may still happen when no session is under way and the link is down. -/
inductive Dozes (k : Keeper State Op) : Keeper State Op → Prop
  | tells (ls : List LogRecord) : Dozes k (k.say ls)
  | claims {c : Nat} : k.calls[c]? = some (.opened .cleanup) →
      Dozes k (k.setCall c (.claiming .cleanup))
  | refuses {c : Nat} {r : CallRequest} {f : Failure} (ls : List LogRecord) :
      k.calls[c]? = some (.opened r) → k.Refuses f r →
      Dozes k ((k.say ls).conclude c (.outcome f.outcome))
  | gives {c : Nat} : k.calls[c]? = some (.opened .messages) →
      Dozes k (k.takeQueue.2.conclude c (.messages k.takeQueue.1))
  | finishes {c : Nat} : k.calls[c]? = some (.claiming .cleanup) → Dozes k (k.conclude c .done)

namespace Quiet

theorem episode_over (h : Quiet k) {j : Nat} {e : Episode Op} (he : k.episodes[j]? = some e) :
    e.phase.over = true := by
  rw [← Bool.not_eq_false]
  intro hlive
  obtain ⟨w, hw, -, -, ho⟩ := h.one.owned he hlive
  simp [h.ended hw] at ho

theorem of_same (h : Quiet k) (h1 : OneSession k') (hw : k'.watches = k.watches)
    (hs : k'.slot = k.slot) (hc : k'.calls = k.calls) (hst : k'.state = k.state) : Quiet k' :=
  ⟨h1, fun hw' => h.ended (hw ▸ hw'), hs.trans h.slot, fun hp => h.calls (hc ▸ hp),
    hst.trans h.state⟩

theorem of_setCall {p : CallPhase Op} (h : Quiet k) (h1 : OneSession k') (hp : p.calm = true)
    (hc : k'.calls = k.calls.set c p) (hw : k'.watches = k.watches) (hs : k'.slot = k.slot)
    (hst : k'.state = k.state) : Quiet k' := by
  refine ⟨h1, fun hw' => h.ended (hw ▸ hw'), hs.trans h.slot, fun {c' q} hq => ?_,
    hst.trans h.state⟩
  rw [hc] at hq
  rcases getElem?_set_eq_some hq with ⟨-, rfl⟩ | ⟨-, hq⟩
  · exact hp
  · exact h.calls hq

theorem dozes (h : Quiet k) (hdown : k.isConnected T = false) (hm : Move T a k k') :
    Dozes k k' := by
  have hcall : ∀ {c : Nat} {p : CallPhase Op}, k.calls[c]? = some p → p.calm = false → False :=
    fun hc hl => by simp [h.calls hc] at hl
  rcases a with i | j | c
  case call =>
    cases hm with
    | say ls => exact .tells ls
    | send hc hi hs => simp [h.state] at hs
    | claim hc hr =>
      rcases hr with ⟨-, -, -, hs⟩ | ⟨rfl, rfl⟩
      · simp [h.state, LinkState.hasSession] at hs
      · exact .claims hc
    | refuse ls hc hf => exact .refuses ls hc hf
    | messages hc => exact .gives hc
    | join hc hs => simp [h.slot] at hs
    | release hh hn hs => simp [h.slot] at hs
    | @close _ _ ending hcl hu =>
      -- only a call to clean up is left, and that would have to find the link up
      rcases hcl with ⟨hc, -⟩ | ⟨i, d, hc, -⟩
      · cases ending with
        | disconnect => exact (hcall hc rfl).elim
        | cleanup => simp [hdown] at hu
      · exact (hcall hc rfl).elim
    | skip hcl hu =>
      rcases hcl with ⟨hc, -⟩ | ⟨i, d, hc, -⟩
      · rw [lower, if_pos h.state]
        exact .finishes hc
      · exact (hcall hc rfl).elim
    | _ => exact (hcall ‹_› rfl).elim
  all_goals
    cases Acts.move hm with
    | tells ls hk => exact hk ▸ .tells ls
    | frees hs => simp [h.slot] at hs
    | lives hl =>
      obtain ⟨x, hx, hlive⟩ := hl
      first | simp [h.ended hx] at hlive | simp [h.episode_over hx] at hlive

theorem move (h : Quiet k) (hdown : k.isConnected T = false) (hm : Move T a k k') :
    Quiet k' ∧ k'.transport = k.transport ∧ k'.installed = k.installed := by
  have h1 := h.one.move hm
  cases h.dozes hdown hm with
  | tells ls => exact ⟨h.of_same h1 rfl rfl rfl rfl, rfl, rfl⟩
  | _ => exact ⟨h.of_setCall h1 rfl rfl rfl rfl rfl, rfl, rfl⟩

theorem befall {s : Step State} (h : Quiet k) (hs : s.Spares) (hb : Befalls k s k') :
    Quiet k' ∧ k'.transport = k.transport ∧ k'.installed = k.installed := by
  have h1 := h.one.befall hb
  cases hb with
  | call r =>
    refine ⟨⟨h1, h.ended, h.slot, fun {c p} hc => ?_, h.state⟩, rfl, rfl⟩
    rcases getElem?_concat_eq_some.1 hc with hc | ⟨-, rfl⟩
    · exact h.calls hc
    · cases r <;> first | rfl | exact hs.elim
  | pass ms => exact ⟨h.of_same h1 rfl rfl rfl rfl, rfl, rfl⟩
  | disturb s => exact hs.elim
  | drop => exact ⟨h.of_same h1 rfl rfl rfl rfl, rfl, rfl⟩

end Quiet

/-- The link is down, as far as there is a transport. -/
def Offline (up : State → Bool) (k : Keeper State Op) : Prop :=
  k.installed = true → up k.transport = false

theorem Offline.isConnected {up : State → Bool} (hT : T.Shuts up) (h : k.Offline up) :
    k.isConnected T = false := by
  unfold Keeper.isConnected linkUp
  rcases hi : k.installed with _ | _
  · rfl
  · rcases hu : T.isUp k.transport with f | b
    · rfl
    · exact (hT.truth hu).symm.trans (h hi)

/-- While nobody calls to connect and the transport does not change by itself, a link that is down
stays down. -/
theorem Quiet.run {up : State → Bool} (hT : T.Shuts up) {ss : List (Step State)}
    (hr : RunsUnder T (fun _ s => s.Spares) k ss k') (h : Quiet k) (hdown : k.Offline up) :
    Quiet k' ∧ k'.Offline up := by
  have hkept : ∀ {k k' : Keeper State Op},
      Quiet k' ∧ k'.transport = k.transport ∧ k'.installed = k.installed →
      k.Offline up → Quiet k' ∧ k'.Offline up := by
    intro k k' h hdown
    refine ⟨h.1, fun hi => ?_⟩
    rw [h.2.1]
    exact hdown (h.2.2.symm.trans hi)
  exact hr.keeps (P := fun k => Quiet k ∧ k.Offline up)
    (fun hs hn h => next?_keeps (P := fun k => Quiet k ∧ k.Offline up)
      (fun hm h => hkept (h.1.move (h.2.isConnected hT) hm) h.2)
      (fun _ hb => hkept (h.1.befall hs hb) h.2) hn h) ⟨h, hdown⟩

end Quiet

section Winds

theorem Closes.watchOver {ending : Ending} (h : k.Closes c ending) {e : Ending} {i d : Nat}
    (hc : k.calls[c]? = some (.joining e i d)) : k.watchOver i = true := by
  rcases h with ⟨hc', -⟩ | ⟨i', d', hc', ho, -⟩
  · cases hc.symm.trans hc'
  · cases hc.symm.trans hc'
    exact ho

/-- No call but one is under way. -/
structure Alone (c : Nat) (k : Keeper State Op) : Prop where
  one : OneSession k
  awaited : Awaited k
  others : ∀ {c' : Nat} {p : CallPhase Op}, k.calls[c']? = some p → c' ≠ c →
    p.answer?.isSome = true

namespace Alone

theorem of_idle {config : LinkConfig} {transport : State} {installed : Bool}
    {ss : List (Step State)} (h : Runs T (fresh config transport installed) ss k)
    (hidle : k.idle = true) (c : Nat) : Alone c k :=
  ⟨.run h oneSession_fresh, .run h oneSession_fresh .fresh,
    fun hp _ => List.all_eq_true.1 hidle _ (List.mem_of_getElem? hp)⟩

theorem call (h : Alone k.calls.length k) (hheld : k.held = true) (r : CallRequest) :
    Alone k.calls.length (k.call r) := by
  refine ⟨h.one.befall (.call r), h.awaited.befall (fun _ _ => hheld) (.call r), ?_⟩
  intro c' p hp hne
  rcases getElem?_concat_eq_some.1 hp with hp | ⟨hc', -⟩
  · exact h.others hp hne
  · exact (hne hc').elim

theorem move (h : Alone c k) (hm : Move T a k k') : Alone c k' := by
  refine ⟨h.one.move hm, h.awaited.move h.one hm, fun {c' p'} hp' hne => ?_⟩
  rcases (Answers.move hm).calls with hsame | ⟨c₀, p, p₀, hp, hset, hgo⟩
  · exact h.others (hsame ▸ hp') hne
  · -- the call that goes on has not answered
    obtain rfl : c₀ = c := by
      by_contra hc₀
      have hbusy := hgo.busy
      simp [h.others hp hc₀] at hbusy
    rw [hset, List.getElem?_set_ne hne.symm] at hp'
    exact h.others hp' hne

theorem befall {s : Step State} (h : Alone c k) (hs : ∀ r, s ≠ .call r) (hb : Befalls k s k') :
    Alone c k' := by
  refine ⟨h.one.befall hb, h.awaited.befall (fun r hr => (hs r hr).elim) hb, ?_⟩
  cases hb with
  | call r => exact (hs r rfl).elim
  | _ => exact h.others

theorem busy (hl : k.Lives (.call c)) : ¬ k.Free := by
  obtain ⟨p, hc, hp⟩ := hl
  intro hf
  simp [hf.2 p (List.mem_of_getElem? hc)] at hp

theorem held (hl : k.Lives (.call c)) : k.calls.any (fun p => p.answer?.isNone) = true := by
  obtain ⟨p, hc, hp⟩ := hl
  exact List.any_eq_true.2 ⟨p, List.mem_of_getElem? hc, by simpa using hp⟩

/-- When the slot is empty, only the watch that the call waits for may not be over. -/
theorem ended (h : Alone c k) (hl : k.Lives (.call c)) (hs : k.slot = none)
    (hj : ∀ ending i d, k.calls[c]? = some (.joining ending i d) → k.watchOver i = true)
    (i : Nat) (w : Watch Op) (hw : k.watches[i]? = some w) : w.phase.over = true := by
  have hi := (List.getElem?_eq_some_iff.1 hw).1
  obtain ⟨w', hw', -, ho | ⟨c', ending, d, hc'⟩⟩ :=
    (h.awaited.tended (busy hl)).handled hs hi
  · exact Option.some.inj (hw'.symm.trans hw) ▸ ho
  · obtain rfl : c' = c := by
      by_contra hne
      simpa [CallPhase.answer?] using h.others hc' hne
    simpa [watchOver, hw] using hj _ _ _ hc'

theorem quiet (h : Alone c k) {answer : Answer} (h1 : OneSession k')
    (hended : ∀ (i : Nat) (w : Watch Op), k.watches[i]? = some w → w.phase.over = true)
    (hw : k'.watches = k.watches) (hs : k'.slot = none) (hst : k'.state = .disconnected)
    (hc : k'.calls = k.calls.set c (.answered answer)) : Quiet k' := by
  refine ⟨h1, fun hw' => hended _ _ (hw ▸ hw'), hs, fun {c' p} hp => ?_, hst⟩
  rw [hc] at hp
  rcases getElem?_set_eq_some hp with ⟨-, rfl⟩ | ⟨hne, hp⟩
  · rfl
  · have hdone := h.others hp hne.symm
    cases p <;> first | rfl | cases hdone

end Alone

/-- How far a call to end the session has come. -/
inductive Winds (T : Transport State Op) (c : Nat) (ending : Ending) (k : Keeper State Op) : Prop
  | opened (hc : k.calls[c]? = some (.opened ending.request))
      (hd : k.deeds (Event.by (.call c)) = [])
  | claiming (hc : k.calls[c]? = some (.claiming ending)) (hd : k.deeds (Event.by (.call c)) = [])
  | joining {i d : Nat} (hc : k.calls[c]? = some (.joining ending i d)) (hs : k.slot = none)
      (hd : k.deeds (Event.by (.call c)) = [])
  | closing {op : Op} (hc : k.calls[c]? = some (.closing ending op)) (hs : k.slot = none)
      (hop : T.Carries .disconnect op)

/-- What a call to end the session has come to: it was refused, or all is over and the link is down
unless the transport broke. -/
inductive Wound (T : Transport State Op) (up : State → Bool) (c : Nat) (ending : Ending)
    (k : Keeper State Op) : Prop
  | refused {o : Outcome} (hc : k.calls[c]? = some (.answered (.outcome o)))
      (ho : o.success = false)
  | closed {answer : Answer} (hc : k.calls[c]? = some (.answered answer)) (hq : Quiet k)
      (hdown : (∀ f, .returned (.call c) (.error f) ∉ k.history) →
        (ending = .cleanup → .invoked (.call c) .disconnect ∈ k.history ∨
          ∃ b, T.isUp k.transport = .ok b) → k.Offline up)

/-- What a call to end the session has come to over any transport. -/
inductive Parts (T : Transport State Op) (c : Nat) (ending : Ending) (k : Keeper State Op) : Prop
  | refused {o : Outcome} (hc : k.calls[c]? = some (.answered (.outcome o)))
      (ho : o.success = false) (he : ending = .disconnect)
  | closed {answer : Answer} (hc : k.calls[c]? = some (.answered answer)) (hq : Quiet k)
      (hdown : ∀ {up : State → Bool}, T.Shuts up →
        (∀ f, .returned (.call c) (.error f) ∉ k.history) →
        (ending = .cleanup → .invoked (.call c) .disconnect ∈ k.history ∨
          ∃ b, T.isUp k.transport = .ok b) → k.Offline up)

theorem Parts.wound {ending : Ending} {up : State → Bool} (hT : T.Shuts up)
    (h : Parts T c ending k) : Wound T up c ending k := by
  cases h with
  | refused hc ho => exact .refused hc ho
  | closed hc hq hdown => exact .closed hc hq (hdown hT)

namespace Winds

variable {ending : Ending} {up : State → Bool}

theorem lives (h : Winds T c ending k) : k.Lives (.call c) := by
  cases h with
  | opened hc => exact ⟨_, hc, rfl⟩
  | claiming hc => exact ⟨_, hc, rfl⟩
  | joining hc => exact ⟨_, hc, rfl⟩
  | closing hc => exact ⟨_, hc, rfl⟩

theorem of_call (hd : k.deeds (Event.by (.call k.calls.length)) = []) :
    Winds T k.calls.length ending (k.call ending.request) :=
  .opened List.getElem?_concat_length ((deeds_of_befalls _ (.call _)).trans hd)

theorem of_same (h : Winds T c ending k) (hc' : k'.calls[c]? = k.calls[c]?) (hs' : k'.slot = k.slot)
    (hd' : k'.deeds (Event.by (.call c)) = k.deeds (Event.by (.call c))) :
    Winds T c ending k' := by
  cases h with
  | opened hc hd => exact .opened (hc'.trans hc) (hd'.trans hd)
  | claiming hc hd => exact .claiming (hc'.trans hc) (hd'.trans hd)
  | joining hc hs hd => exact .joining (hc'.trans hc) (hs'.trans hs) (hd'.trans hd)
  | closing hc hs hop => exact .closing (hc'.trans hc) (hs'.trans hs) hop

theorem of_others (h : Winds T c ending k) (hk : Alone c k) (hm : Move T a k k')
    (ha : a ≠ .call c) : Winds T c ending k' := by
  have hd := deeds_of_move hm (p := Event.by (.call c)) fun e he => Event.by_ne he ha
  have hbusy := Alone.busy h.lives
  rcases a with i | j | c'
  case call =>
    cases Acts.move hm with
    | tells ls hk => exact hk ▸ h.of_same rfl rfl (deeds_say _ k ls)
    | frees _ hf => exact (hbusy hf).elim
    | lives hl =>
      obtain ⟨p, hp, hlive⟩ := hl
      simp [hk.others hp (by simpa using ha)] at hlive
  all_goals
    obtain ⟨hcalls, hslot⟩ := frame_of_worker hm (by simp)
    exact h.of_same (by rw [hcalls]) (hslot.resolve_right hbusy) hd

theorem getElem?_calls_set {p q : CallPhase Op} (hc : k.calls[c]? = some p)
    (h : k'.calls = k.calls.set c q) : k'.calls[c]? = some q := by
  rw [h, getElem?_set_self_of_eq_some hc]

theorem of_opened (hc : k.calls[c]? = some (.opened ending.request))
    (hd : k.deeds (Event.by (.call c)) = []) (hm : Move T (.call c) k k') :
    Winds T c ending k' ∨ Parts T c ending k' := by
  have hself : ∀ {p}, k.calls[c]? = some p → p = .opened ending.request :=
    fun hp => Option.some.inj (hp.symm.trans hc)
  cases hm with
  | say ls => exact .inl (.opened hc ((deeds_say _ k ls).trans hd))
  | @claim _ _ r e hc' hr =>
    have hreq := CallPhase.opened.inj (hself hc')
    obtain rfl : e = ending := by
      rcases hr with ⟨rfl, rfl, -⟩ | ⟨rfl, rfl⟩ <;> cases ending <;> simp [Ending.request] at hreq ⊢
    exact .inl (.claiming (getElem?_calls_set hc rfl) hd)
  | refuse ls hc' hf =>
    cases ending with
    | disconnect => exact .inr (.refused (getElem?_calls_set hc rfl) rfl rfl)
    | cleanup =>
      obtain rfl := CallPhase.opened.inj (hself hc')
      exact hf.elim
  | release hh hn hs => simp [Alone.held ⟨_, hc, rfl⟩] at hn
  | close hcl hu => rcases hcl with ⟨hc', -⟩ | ⟨i, d, hc', -⟩ <;> cases hself hc'
  | skip hcl hu => rcases hcl with ⟨hc', -⟩ | ⟨i, d, hc', -⟩ <;> cases hself hc'
  | _ =>
    have hreq := hself ‹_›
    cases ending <;> simp [Ending.request] at hreq

/-- The call has only the transport left to close, and finds its link down. -/
theorem of_skip (hk : Alone c k) (hcl : k.Closes c .cleanup)
    (hs : k.slot = none) (hd : k.deeds (Event.by (.call c)) = []) (hu : k.isConnected T = false) :
    Parts T c .cleanup ((k.lower (.call c)).conclude c .done) := by
  have hm : Move T (.call c) k ((k.lower (.call c)).conclude c .done) := .skip hcl hu
  have h1 := hk.one.move hm
  have hended := hk.ended hcl.lives hs fun _ _ _ hc => hcl.watchOver hc
  obtain ⟨p, hc, -⟩ := hcl.lives
  rw [lower_eq] at h1 ⊢
  refine .closed (getElem?_calls_set hc rfl) (hk.quiet h1 hended rfl hs rfl rfl)
    fun hT _ hquery hi => ?_
  rcases hquery rfl with hinvoked | ⟨b, hb⟩
  · -- the call has not done anything before
    have hmem : Event.invoked (.call c) .disconnect ∈ k.history := by
      simp only [conclude, setCall, record, List.mem_cons, List.mem_append] at hinvoked
      rcases hinvoked with h | h | h
      · cases h
      · split at h <;> simp at h
      · exact h
    have hdeed := mem_deeds.2 ⟨hmem, rfl, show Event.by (.call c) _ = true by simp [Event.by]⟩
    simp [hd] at hdeed
  · have hlink : b = k.linkUp T := by
      rw [linkUp, show T.isUp k.transport = .ok b from hb]
    have hdown : k.linkUp T = false := by
      have hinst : k.installed = true := hi
      simpa [isConnected, hinst] using hu
    exact (hT.truth hb).trans (hlink.trans hdown)

theorem of_closed (hk : Alone c k) {op : Op} {r : Result} {answer : Answer}
    (ls ls' : List LogRecord) (hc : k.calls[c]? = some (.closing ending op)) (hs : k.slot = none)
    (hop : T.Carries .disconnect op) (ht : (k.turn T op).progress = .done r) (h1 : OneSession k')
    (hk' : k' = ((((k.absorb (.call c) (k.turn T op)).say ls).lower (.call c)).say ls').conclude
      c answer) : Parts T c ending k' := by
  have hended := hk.ended ⟨_, hc, rfl⟩ hs (fun _ _ _ hc' => by cases hc.symm.trans hc')
  rw [lower_eq] at hk'
  subst hk'
  have hquiet := hk.quiet h1 hended rfl hs rfl rfl
  refine .closed (getElem?_calls_set hc rfl) hquiet fun hT hfault _ hi => ?_
  rcases r with f | code
  · refine absurd ?_ (hfault f)
    simp [conclude, setCall, record, Keeper.say, absorb, Turn.events, ht]
  · exact hT.closes hop ht

theorem of_claiming (hk : Alone c k) (hc : k.calls[c]? = some (.claiming ending))
    (hd : k.deeds (Event.by (.call c)) = []) (hm : Move T (.call c) k k') :
    Winds T c ending k' ∨ Parts T c ending k' := by
  have hself : ∀ {p}, k.calls[c]? = some p → p = .claiming ending :=
    fun hp => Option.some.inj (hp.symm.trans hc)
  cases hm with
  | say ls => exact .inl (.claiming hc ((deeds_say _ k ls).trans hd))
  | @join _ _ e i hc' hs =>
    obtain rfl := CallPhase.claiming.inj (hself hc')
    have hd' : (({ k with slot := none }.raiseStop i).setCall c
        (.joining e i (wake k.now k.config.joinTimeout))).deeds (Event.by (.call c)) = [] := by
      rw [deeds_setCall, deeds_raiseStop]
      exact hd
    rw [raiseStop_eq] at hd' ⊢
    exact .inl (.joining (getElem?_calls_set hc rfl) rfl hd')
  | close hcl hu =>
    rcases hcl with ⟨hc', hs⟩ | ⟨i, d, hc', -⟩
    · obtain rfl := CallPhase.claiming.inj (hself hc')
      exact .inl (.closing (getElem?_calls_set hc rfl) hs .start)
    · cases hself hc'
  | skip hcl hu =>
    rcases hcl with ⟨hc', hs⟩ | ⟨i, d, hc', hrest⟩
    · obtain rfl := CallPhase.claiming.inj (hself hc')
      exact .inr (of_skip hk (.inl ⟨hc', hs⟩) hs hd hu)
    · cases hself hc'
  | release hh hn hs => simp [Alone.held ⟨_, hc, rfl⟩] at hn
  | _ => cases hself ‹_›

theorem of_joining (hk : Alone c k) {i d : Nat}
    (hc : k.calls[c]? = some (.joining ending i d)) (hs : k.slot = none)
    (hd : k.deeds (Event.by (.call c)) = []) (hm : Move T (.call c) k k') :
    Winds T c ending k' ∨ Parts T c ending k' := by
  have hself : ∀ {p}, k.calls[c]? = some p → p = .joining ending i d :=
    fun hp => Option.some.inj (hp.symm.trans hc)
  cases hm with
  | say ls => exact .inl (.joining hc hs ((deeds_say _ k ls).trans hd))
  | @joined _ _ _ n =>
    obtain ⟨s, hk'⟩ := abortLastEpisode_eq T n k
    rw [hk']
    exact .inl (.joining hc hs hd)
  | @abort _ _ _ n =>
    obtain ⟨s, hk'⟩ := abortWatch_eq T n k
    obtain ⟨s', hk''⟩ := abortLastEpisode_eq T n (k.abortWatch T n)
    rw [hk'', hk']
    exact .inl (.joining hc hs hd)
  | close hcl hu =>
    obtain ⟨hc', -⟩ | ⟨i, d, hc', -⟩ := hcl
    · cases hself hc'
    · obtain ⟨rfl, -, -⟩ := CallPhase.joining.inj (hself hc')
      exact .inl (.closing (getElem?_calls_set hc rfl) hs .start)
  | skip hcl hu =>
    rcases hcl with ⟨hc', -⟩ | ⟨i, d, hc', hrest⟩
    · cases hself hc'
    · obtain ⟨rfl, -, -⟩ := CallPhase.joining.inj (hself hc')
      exact .inr (of_skip hk (.inr ⟨i, d, hc', hrest⟩) hs hd hu)
  | release hh hn hs => simp [Alone.held ⟨_, hc, rfl⟩] at hn
  | _ => cases hself ‹_›

theorem of_closing (hk : Alone c k) {op : Op}
    (hc : k.calls[c]? = some (.closing ending op)) (hs : k.slot = none)
    (hop : T.Carries .disconnect op) (hm : Move T (.call c) k k') :
    Winds T c ending k' ∨ Parts T c ending k' := by
  have hself : ∀ {p}, k.calls[c]? = some p → p = .closing ending op :=
    fun hp => Option.some.inj (hp.symm.trans hc)
  have h1 := hk.one.move hm
  cases hm with
  | say ls => exact .inl (.closing hc hs hop)
  | closingCall hc' ht =>
    obtain ⟨rfl, rfl⟩ := CallPhase.closing.inj (hself hc')
    exact .inl (.closing (getElem?_calls_set hc rfl) hs (.pending hop ht))
  | closed ls ls' hc' ht =>
    obtain ⟨rfl, rfl⟩ := CallPhase.closing.inj (hself hc')
    exact .inr (of_closed hk ls ls' hc hs hop ht h1 rfl)
  | close hcl hu => rcases hcl with ⟨hc', -⟩ | ⟨i, d, hc', -⟩ <;> cases hself hc'
  | skip hcl hu => rcases hcl with ⟨hc', -⟩ | ⟨i, d, hc', -⟩ <;> cases hself hc'
  | release hh hn hs => simp [Alone.held ⟨_, hc, rfl⟩] at hn
  | _ => cases hself ‹_›

theorem of_own (hk : Alone c k) (h : Winds T c ending k)
    (hm : Move T (.call c) k k') : Winds T c ending k' ∨ Parts T c ending k' := by
  cases h with
  | opened hc hd => exact of_opened hc hd hm
  | claiming hc hd => exact of_claiming hk hc hd hm
  | joining hc hs hd => exact of_joining hk hc hs hd hm
  | closing hc hs hop => exact of_closing hk hc hs hop hm

theorem go (hk : Alone c k) (h : Winds T c ending k) (hm : Move T a k k') :
    Winds T c ending k' ∨ Parts T c ending k' := by
  by_cases ha : a = .call c
  · subst ha
    exact of_own hk h hm
  · exact .inl (h.of_others hk hm ha)

theorem move (hT : T.Shuts up) (hk : Alone c k) (h : Winds T c ending k) (hm : Move T a k k') :
    Winds T c ending k' ∨ Wound T up c ending k' :=
  (h.go hk hm).imp_right fun hp => hp.wound hT

end Winds

theorem Wound.answered {ending : Ending} {up : State → Bool} (h : Wound T up c ending k) :
    ∃ a, k.calls[c]? = some (.answered a) := by
  cases h with
  | refused hc => exact ⟨_, hc⟩
  | closed hc => exact ⟨_, hc⟩

/-- Once it has answered, a call leaves things as they are. -/
theorem Parts.of_own {ending : Ending} (h : Parts T c ending k) (hm : Move T (.call c) k k') :
    Parts T c ending k' := by
  cases h with
  | refused hc ho he => exact .refused ((Answers.move hm).answered hc rfl) ho he
  | closed hc hq hdown =>
    cases Acts.move hm with
    | tells ls hk =>
      subst hk
      refine .closed hc (hq.of_same (hq.one.move hm) rfl rfl rfl rfl)
        fun hT hfault hquery => hdown hT (fun f hf => hfault f ?_) fun he => (hquery he).imp ?_ id
      · exact List.mem_append_right _ hf
      · simp [Keeper.say]
    | frees hs => simp [hq.slot] at hs
    | lives hl =>
      obtain ⟨p, hp, hlive⟩ := hl
      obtain rfl := Option.some.inj (hc.symm.trans hp)
      cases hlive

/-- What a turn of the call leads to. -/
theorem Winds.turn {ending : Ending} (h : Winds T c ending k) (hk : Alone c k)
    (hm : Relation.ReflTransGen (Move T (.call c)) k k') :
    Winds T c ending k' ∨ Parts T c ending k' := by
  refine (moves_keep (P := fun k => Alone c k ∧ (Winds T c ending k ∨ Parts T c ending k))
    (fun hm h => ⟨h.1.move hm, ?_⟩) hm ⟨hk, .inl h⟩).2
  rcases h.2 with hw | hw
  · exact hw.go h.1 hm
  · exact .inr (hw.of_own hm)

theorem Winds.moves {ending : Ending} {up : State → Bool} (hT : T.Shuts up)
    (h : Winds T c ending k) (hk : Alone c k)
    (hm : Relation.ReflTransGen (Move T (.call c)) k k') :
    Winds T c ending k' ∨ Wound T up c ending k' :=
  (h.turn hk hm).imp_right fun hp => hp.wound hT

end Winds

theorem Runs.under_of_mem {ok : Step State → Prop} {ss : List (Step State)} (hr : Runs T k ss k')
    (hs : ∀ s ∈ ss, ok s) : RunsUnder T (fun _ => ok) k ss k' := by
  induction hr with
  | nil k => exact .nil k
  | cons hn _ ih => exact .cons (hs _ (by simp)) hn (ih fun s h => hs s (by simp [h]))

/-- While no other call is made, a call to end the session is under way or has answered. -/
theorem Winds.run {ending : Ending} {up : State → Bool} (hT : T.Shuts up)
    {ss : List (Step State)} (hr : Runs T k ss k') (hs : ∀ r, .call r ∉ ss) (hk : Alone c k)
    (h : Winds T c ending k) :
    Alone c k' ∧ (Winds T c ending k' ∨ ∃ a, k'.calls[c]? = some (.answered a)) := by
  have hcalls : ∀ s ∈ ss, ∀ r, s ≠ .call r := by
    rintro s hmem r rfl
    exact hs r hmem
  refine (hr.under_of_mem hcalls).keeps
    (P := fun k => Alone c k ∧ (Winds T c ending k ∨ ∃ a, k.calls[c]? = some (.answered a)))
    (fun hs hn h => next?_keeps
      (P := fun k => Alone c k ∧ (Winds T c ending k ∨ ∃ a, k.calls[c]? = some (.answered a)))
      (fun hm h => ⟨h.1.move hm, ?_⟩) (fun _ hb => ⟨h.1.befall hs hb, ?_⟩) hn h) ⟨hk, .inl h⟩
  · rcases h.2 with hw | ⟨a, hc⟩
    · rcases hw.move hT h.1 hm with hw | hw
      · exact .inl hw
      · exact .inr hw.answered
    · exact .inr ⟨a, (Answers.move hm).answered hc rfl⟩
  · have hsame := deeds_of_befalls (Event.by (.call c)) hb
    cases hb with
    | call r => exact (hs r rfl).elim
    | _ => exact h.2.imp (fun hw => hw.of_same rfl rfl hsame) id

/-- A call to end the session is made while no other is under way, and none is made until it has
answered. If it succeeds the state is disconnected; and the link is down, and stays so while nobody
calls to connect and the transport does not change by itself, unless the disconnect broke or, for a
clean-up that made none, the question for the link did. -/
theorem closed_of_run {up : State → Bool} (hT : T.Shuts up) {config : LinkConfig}
    {transport : State} {installed : Bool} {k k₀ k₁ : Keeper State Op}
    {ss ss₁ : List (Step State)} {ending : Ending} {a : Answer}
    (h : Runs T (fresh config transport installed) ss k) (hidle : k.idle = true)
    (h₁ : Runs T k (.call ending.request :: ss₁) k₀) (halone : ∀ r, .call r ∉ ss₁)
    (hn : k₀.next? T (.resume (.call k.calls.length)) = some k₁)
    (ha : k₁.calls[k.calls.length]? = some (.answered a))
    (hok : ∀ o, a = .outcome o → o.success = true) :
    k₁.state = .disconnected ∧
    ((∀ f, .returned (.call k.calls.length) (.error f) ∉ k₁.history) →
      (ending = .cleanup → .invoked (.call k.calls.length) .disconnect ∈ k₁.history ∨
        ∃ b, T.isUp k₁.transport = .ok b) →
      ∀ (ss₂ : List (Step State)) (k₂ : Keeper State Op),
        RunsUnder T (fun _ s => s.Spares) k₁ ss₂ k₂ → k₂.Offline up) := by
  set c := k.calls.length
  rcases h₁ with _ | ⟨hcall, h₁⟩
  obtain ⟨hheld, rfl⟩ := held_of_call hcall
  have halone₀ : Alone c (k.call ending.request) := (Alone.of_idle h hidle c).call hheld _
  have hwinds₀ : Winds T c ending (k.call ending.request) :=
    .of_call (deeds_of_unmade h (fun _ _ => rfl) c (Nat.le_refl _))
  -- until it goes on for the last time the call is under way
  have hcourse := hwinds₀.run hT h₁ halone halone₀
  obtain ⟨hready, rfl⟩ := ready_of_resume hn
  have hwinds : Winds T c ending k₀ := by
    refine hcourse.2.resolve_right ?_
    rintro ⟨a, hc⟩
    simp [ready, hc, callReady] at hready
  have hend := hwinds.moves hT hcourse.1 (resume_moves hready)
  rcases hend with hw | hw
  · obtain ⟨p, hp, hlive⟩ := hw.lives
    obtain rfl := Option.some.inj (ha.symm.trans hp)
    cases hlive
  cases hw with
  | refused hc ho =>
    obtain rfl := CallPhase.answered.inj (Option.some.inj (ha.symm.trans hc))
    simp [hok _ rfl] at ho
  | closed hc hq hdown =>
    exact ⟨hq.state, fun hfault hquery ss₂ k₂ h₂ => (hq.run hT h₂ (hdown hfault hquery)).2⟩

/-- A disconnect of the scripted transport takes one turn. -/
theorem carries_disconnect {op : Rehearsal.Op} (h : Rehearsal.stage.Carries .disconnect op) :
    op = .fresh .disconnect := by
  induction h with
  | start => rfl
  | pending _ hp ih =>
    subst ih
    simp only [Rehearsal.stage, Rehearsal.Stage.run] at hp
    split at hp <;> cases hp

theorem shuts_stage : Rehearsal.stage.Shuts Rehearsal.Stage.up where
  truth {s b} h := by
    simp only [Rehearsal.stage] at h
    split at h
    · cases h
    · exact Except.ok.inj h
  closes {op now s code} hop ht := by
    obtain rfl := carries_disconnect hop
    simp only [Rehearsal.stage, Rehearsal.Stage.run] at ht ⊢
    split at ht
    · cases ht
    · rename_i hf
      rw [if_neg hf]
      rfl

/-- The session is ended while an attempt of its is in flight, which gets the link meanwhile. -/
def lateSteps : List (Step Rehearsal.Stage) :=
  [.resume (.call 1), .resume (.call 1), .resume (.watch 0), .pass 50, .resume (.episode 0),
    .resume (.watch 0)]

theorem closed_of_run_late : ∃ k k₀ k₁, Runs Rehearsal.stage (fresh {} {} true) lossSteps k ∧
    Runs Rehearsal.stage k (.call Ending.disconnect.request :: lateSteps) k₀ ∧
    k₀.next? Rehearsal.stage (.resume (.call k.calls.length)) = some k₁ ∧
    k₁.state = .disconnected ∧ k₁.installed = true ∧ k₁.transport.up = false := by
  obtain ⟨k, k₀, k₁, hr, hidle, hr₀, hn, ha, hd, hi⟩ : ∃ k k₀ k₁,
      Runs Rehearsal.stage (fresh {} {} true) lossSteps k ∧ k.idle = true ∧
      Runs Rehearsal.stage k (.call Ending.disconnect.request :: lateSteps) k₀ ∧
      k₀.next? Rehearsal.stage (.resume (.call k.calls.length)) = some k₁ ∧
      k₁.calls[k.calls.length]? = some (.answered (.outcome (Outcome.done "Disconnected"))) ∧
      k₁.deeds (Event.by (.call k.calls.length)) =
        [.invoked (.call 1) .disconnect, .returned (.call 1) (.ok 0)] ∧ k₁.installed = true :=
    ⟨_, _, _, .cons rfl <| .cons rfl <| .cons rfl <| .cons rfl <| .cons rfl <| .cons rfl <|
      .cons rfl <| .cons rfl <| .nil _, rfl,
      .cons rfl <| .cons rfl <| .cons rfl <| .cons rfl <| .cons rfl <| .cons rfl <|
      .cons rfl <| .nil _, rfl, rfl, rfl, rfl⟩
  obtain ⟨hstate, hdown⟩ :=
    closed_of_run shuts_stage hr hidle hr₀ (by simp [lateSteps]) hn ha (by rintro o ⟨rfl⟩; rfl)
  refine ⟨k, k₀, k₁, hr, hr₀, hn, hstate, hi, hdown (fun f hf => ?_) (by simp) [] k₁ (.nil k₁) hi⟩
  have hmem := mem_deeds.2 ⟨hf, rfl, show Event.by (.call k.calls.length) _ = true by
    simp [Event.by]⟩
  simp [hd] at hmem

end Keeper

end SessionKeeper

import SessionKeeper.Proofs.Keeper.Endings
import SessionKeeper.Proofs.Keeper.Messages

/-!
# How losses are noticed

A watch takes a link that is down for lost only if it saw it up since its last episode began. While
the link stays down nobody makes the state connected (`stays_of_resume`): whoever does so has just
found the link up, and then leaves the transport alone. So a keeper that is connected, and whose
watch has seen the link up, does not stay so for longer than a watch rests (`loss_of_run`). The
watch of a keeper that has become connected sees the link up only when it looks the next time; a
loss before that look is never noticed (`loss_unseen`).
-/

namespace SessionKeeper

variable {State Op : Type}

/-- A call that has its connection recorded or its answer. -/
def CallPhase.landed : CallPhase Op → Bool
  | recorded _ | answered _ => true
  | _ => false

namespace Keeper

variable {T : Transport State Op} {k k' : Keeper State Op} {a : Actor} {i : Nat}

/-- An actor that has finished with the transport. -/
def Done (k : Keeper State Op) : Actor → Prop
  | .watch _ => False
  | .episode j => ∃ e, k.episodes[j]? = some e ∧ e.phase.over = true
  | .call c => ∃ p, k.calls[c]? = some p ∧ p.landed = true

/-- The calls that have their connection recorded find a session. -/
def Seated (k : Keeper State Op) : Prop :=
  ∀ (c : Nat) (target : Endpoint), k.calls[c]? = some (.recorded target) → k.slot ≠ none

/-- What an actor does that does not find the link up: the state does not become connected, and the
watch in the slot, if it is another actor, stays as it is or leaves the slot. -/
structure Stays (a : Actor) (k k' : Keeper State Op) : Prop where
  state : k'.state = k.state ∨ k'.state ≠ .connected ∧
    (k'.state = .disconnected ∨ k.state = .reconnecting ∨ ∃ j, a = .watch j ∧ k.slot = some j)
  slot : k'.slot = k.slot ∨ k'.slot = none
  watch : ∀ {i : Nat} {w : Watch Op}, a ≠ .watch i → k.watches[i]? = some w → k'.slot = some i →
    ∃ w', k'.watches[i]? = some w' ∧ w'.phase = w.phase ∧ w'.seenUp = w.seenUp

namespace Stays

theorem refl (a : Actor) (k : Keeper State Op) : Stays a k k :=
  ⟨.inl rfl, .inl rfl, fun {_ w} _ hw _ => ⟨w, hw, rfl, rfl⟩⟩

theorem trans {k'' : Keeper State Op} (h : Stays a k k') (h' : Stays a k' k'') :
    Stays a k k'' where
  state := by
    rcases h.state with hs | ⟨hne, hs⟩ <;> rcases h'.state with hs' | ⟨hne', hs'⟩
    · exact .inl (hs'.trans hs)
    · refine .inr ⟨hne', ?_⟩
      rcases hs' with hd | hr | ⟨j, ha, hj⟩
      · exact .inl hd
      · exact .inr (.inl (hs ▸ hr))
      · rcases h.slot with hslot | hslot
        · exact .inr (.inr ⟨j, ha, hslot ▸ hj⟩)
        · simp [hslot] at hj
    · exact .inr ⟨hs' ▸ hne, by rwa [hs']⟩
    · refine .inr ⟨hne', ?_⟩
      rcases hs with hd | hs
      · rcases hs' with hd' | hr | ⟨j, ha, hj⟩
        · exact .inl hd'
        · simp [hd] at hr
        · rcases h.slot with hslot | hslot
          · exact .inr (.inr ⟨j, ha, hslot ▸ hj⟩)
          · simp [hslot] at hj
      · exact .inr hs
  slot := by
    rcases h'.slot with hs | hs
    · rcases h.slot with hs' | hs'
      · exact .inl (hs.trans hs')
      · exact .inr (hs.trans hs')
    · exact .inr hs
  watch := by
    intro i w ha hw hs
    have hs' : k'.slot = some i := by
      rcases h'.slot with hsame | hnone
      · exact hsame.symm.trans hs
      · simp [hnone] at hs
    obtain ⟨w', hw', hp, hu⟩ := h.watch ha hw hs'
    obtain ⟨w'', hw'', hp', hu'⟩ := h'.watch ha hw' hs
    exact ⟨w'', hw'', hp'.trans hp, hu'.trans hu⟩

theorem of_watches (hstate : k'.state = k.state ∨ k'.state ≠ .connected ∧
      (k'.state = .disconnected ∨ k.state = .reconnecting ∨ ∃ j, a = .watch j ∧ k.slot = some j))
    (hslot : k'.slot = k.slot) (hw : k'.watches = k.watches) : Stays a k k' :=
  ⟨hstate, .inl hslot, fun {_ w} _ hi _ => ⟨w, hw ▸ hi, rfl, rfl⟩⟩

theorem of_same (hstate : k'.state = k.state) (hslot : k'.slot = k.slot)
    (hw : k'.watches = k.watches) : Stays a k k' :=
  .of_watches (.inl hstate) hslot hw

theorem of_setWatch {w : Watch Op} (hstate : k'.state = k.state) (hslot : k'.slot = k.slot)
    (hw : k'.watches = k.watches.set i w) : Stays (.watch i) k k' where
  state := .inl hstate
  slot := .inl hslot
  watch := by
    intro j v hj hv _
    have hij : i ≠ j := fun h => hj (h ▸ rfl)
    exact ⟨v, by rw [hw, List.getElem?_set_ne hij, hv], rfl, rfl⟩

theorem of_stopEpisode {e : Episode Op} {j : Nat} (h : Stays a k k') :
    Stays a k (k'.stopEpisode j e) := by
  refine h.trans ?_
  rw [stopEpisode_eq]
  refine .of_watches ?_ rfl rfl
  by_cases hs : k'.state = .reconnecting
  · exact .inr ⟨by simp [hs], .inl (by simp [hs])⟩
  · exact .inl (by simp [hs])

theorem of_lower {who : Actor} (h : Stays a k k') : Stays a k (k'.lower who) := by
  refine h.trans ?_
  rw [lower_eq]
  exact .of_watches (.inr ⟨by simp, .inl rfl⟩) rfl rfl

theorem conclude (h : Stays a k k') (ls : List LogRecord) (c : Nat) (x : Answer) :
    Stays a k ((k'.say ls).conclude c x) :=
  h.trans (.of_same rfl rfl rfl)

/-- A session that was stopped is aborted. -/
theorem of_modify {f : Watch Op → Watch Op} (h1 : OneSession k) (hst : k.isStopped i = true)
    (hstate : k'.state = k.state) (hslot : k'.slot = k.slot)
    (hw : k'.watches = k.watches.modify i f) : Stays a k k' where
  state := .inl hstate
  slot := .inl hslot
  watch := by
    intro j v _ hv hs
    have hij : i ≠ j := by
      rintro rfl
      obtain ⟨w, hw, hws⟩ := h1.slot (hslot ▸ hs)
      simp [isStopped, hw, hws] at hst
    exact ⟨v, by simp [hw, hij, hv], rfl, rfl⟩

end Stays

theorem linkUp_of_attemptOutcome {r : Result} (h : k.attemptOutcome T r = .ok true) :
    k.linkUp T = true := by
  unfold attemptOutcome at h
  rcases r with f | code
  · cases h
  · simp only at h
    split at h
    · simp [linkUp, h]
    · cases h

theorem linkUp_congr (h : k'.transport = k.transport) : k'.linkUp T = k.linkUp T := by
  rw [linkUp, linkUp, h]

/-- An actor that has finished with the transport leaves it alone. -/
theorem done_of_move (hheld : k.held = true) (hd : k.Done a) (hm : Move T a k k') :
    k'.transport = k.transport ∧ k'.Done a := by
  rcases a with j | j | j
  · exact hd.elim
  · obtain ⟨e₀, he₀, hover⟩ := hd
    have hno : ∀ {e}, k.episodes[j]? = some e → e.phase.over = false → False := by
      intro e he hlive
      obtain rfl := Option.some.inj (he₀.symm.trans he)
      simp [hlive] at hover
    cases hm with
    | say ls => exact ⟨rfl, e₀, he₀, hover⟩
    | announce he ht => exact (hno he ht.live).elim
    | timeOut he ht => exact (hno he ht.live).elim
    | stop he hi => exact (hno he hi.live).elim
    | dialing he hp => exact (hno he (by rw [hp]; rfl)).elim
    | succeed he hp => exact (hno he (by rw [hp]; rfl)).elim
    | fail ls he hp => exact (hno he (by rw [hp]; rfl)).elim
    | drain he hp => exact (hno he (by rw [hp]; rfl)).elim
    | undo he hp => exact (hno he (by rw [hp]; rfl)).elim
    | closing he hp => exact (hno he (by rw [hp]; rfl)).elim
    | undone ls he hp => exact (hno he (by rw [hp]; rfl)).elim
    | release hh => simp [hheld] at hh
  · obtain ⟨p₀, hc₀, hland⟩ := hd
    have hno : ∀ {p}, k.calls[j]? = some p → p.landed = false → False := by
      intro p hc hp
      obtain rfl := Option.some.inj (hc₀.symm.trans hc)
      simp [hp] at hland
    cases hm with
    | say ls => exact ⟨rfl, p₀, hc₀, hland⟩
    | ensure ls hc =>
      have hsame : k.ensureWatch.transport = k.transport ∧ k.ensureWatch.calls = k.calls := by
        unfold Keeper.ensureWatch
        split <;> exact ⟨rfl, rfl⟩
      refine ⟨hsame.1, .answered (.outcome (Outcome.done "Connected")), ?_, rfl⟩
      simp [conclude, say, setCall, record, hsame.2, (List.getElem?_eq_some_iff.1 hc).1]
    | close hcl =>
      rcases hcl with ⟨hc, -⟩ | ⟨i, d, hc, -⟩
      · exact (hno hc rfl).elim
      · exact (hno hc rfl).elim
    | skip hcl =>
      rcases hcl with ⟨hc, -⟩ | ⟨i, d, hc, -⟩
      · exact (hno hc rfl).elim
      · exact (hno hc rfl).elim
    | refuse ls hc => exact (hno hc rfl).elim
    | dialFailed ls hc => exact (hno hc rfl).elim
    | closed ls ls' hc => exact (hno hc rfl).elim
    | release hh => simp [hheld] at hh
    | dial hc => exact (hno hc rfl).elim
    | send hc => exact (hno hc rfl).elim
    | claim hc => exact (hno hc rfl).elim
    | messages hc => exact (hno hc rfl).elim
    | dialingCall hc => exact (hno hc rfl).elim
    | accept hc => exact (hno hc rfl).elim
    | sending hc => exact (hno hc rfl).elim
    | sent hc => exact (hno hc rfl).elim
    | join hc => exact (hno hc rfl).elim
    | joined hc => exact (hno hc rfl).elim
    | abort hc => exact (hno hc rfl).elim
    | closingCall hc => exact (hno hc rfl).elim

namespace Seated

theorem of_same (h : k.Seated) (hs : k'.slot = k.slot) (hc : k'.calls = k.calls) : k'.Seated := by
  intro c target
  rw [hs, hc]
  exact h c target

theorem of_setCall {c : Nat} {p : CallPhase Op} (h : k.Seated) (hs : k'.slot = k.slot)
    (hc : k'.calls = k.calls.set c p) (hp : ∀ target, p ≠ .recorded target) : k'.Seated := by
  intro c' target hr
  rw [hc] at hr
  rw [hs]
  rcases getElem?_set_eq_some hr with ⟨-, hr⟩ | ⟨-, hr⟩
  · exact absurd hr (hp target)
  · exact h c' target hr

theorem join {c : Nat} {ending : Ending} {d : Nat} (h : InOrder k)
    (hc : k.calls[c]? = some (.claiming ending)) :
    (({ k with slot := none }.raiseStop i).setCall c (.joining ending i d)).Seated := by
  intro c' target hr
  rw [raiseStop_eq] at hr
  rcases getElem?_set_eq_some hr with ⟨-, hr⟩ | ⟨hne, hr⟩
  · cases hr
  · exact absurd (h.call_unique hc rfl hr rfl) hne

end Seated

theorem stays_of_watchMove {j : Nat} (h1 : OneSession k) (h : InOrder k)
    (hm : Move T (.watch j) k k') :
    Stays (.watch j) k k' ∧ k'.slot = k.slot ∧ k'.calls = k.calls := by
  cases hm with
  | say ls => exact ⟨.of_same rfl rfl rfl, rfl, rfl⟩
  | leave hw hi hst => exact ⟨.of_setWatch rfl rfl rfl, rfl, rfl⟩
  | sight hw hl hst hu => exact ⟨.of_setWatch rfl rfl rfl, rfl, rfl⟩
  | pumping hw hp ht => exact ⟨.of_setWatch rfl rfl rfl, rfl, rfl⟩
  | pumped ls hw hp ht =>
    rw [rest_eq, forward_eq]
    exact ⟨.of_setWatch rfl rfl rfl, rfl, rfl⟩
  | ignore hw hl hst hu hn =>
    rw [rest_eq]
    exact ⟨.of_setWatch rfl rfl rfl, rfl, rfl⟩
  | lose hw hl hst hu hseen hs =>
    have hslot := h1.unstopped hw hst
    have hlose : Stays (.watch j) k ((k.record (.looked j false)).lose j) :=
      .of_watches (.inr ⟨by simp [lose, setState, notify, record],
        .inr (.inr ⟨j, rfl, hslot⟩)⟩) rfl rfl
    exact ⟨hlose.trans (.of_setWatch rfl rfl rfl), rfl, rfl⟩
  | beginEpisode hw hp ho =>
    unfold Keeper.beginEpisode
    rw [rest_eq]
    exact ⟨.of_setWatch rfl rfl rfl, rfl, rfl⟩
  | finish hw hp ho => exact ⟨.of_setWatch rfl rfl rfl, rfl, rfl⟩
  | release hh => simp [h.held] at hh

theorem stays_of_episodeMove {j : Nat} (h1 : OneSession k) (h : InOrder k)
    (hm : Move T (.episode j) k k') : k'.linkUp T = true ∧ k'.Done (.episode j) ∨
      Stays (.episode j) k k' ∧ k'.slot = k.slot ∧ k'.calls = k.calls := by
  have habsorb : ∀ op, Stays (.episode j) k (k.absorb (.episode j) (k.turn T op)) :=
    fun _ => .of_same rfl rfl rfl
  cases hm with
  | @succeed _ _ e op r he hp ht hst ho =>
    have hup : (k.absorb (.episode j) (k.turn T op)).linkUp T = true := linkUp_of_attemptOutcome ho
    refine .inl ⟨hup, { e with phase := .succeeded }, ?_, rfl⟩
    exact getElem?_set_self_of_eq_some he
  | @timeOut _ _ e he ht hst hl =>
    -- the state is its own as long as it is not stopped
    have hslot := InOrder.slot_of_unstopped h1 he ht.live hst
    obtain ⟨w, hw, -⟩ := h1.slot hslot
    have hrec := (h.reconnecting hslot hw).2 (.inr ⟨j, e, he, ht.live⟩)
    exact .inr ⟨.of_watches (.inr ⟨by simp [timeOut, setState, notify, log, record],
      .inr (.inl hrec)⟩) rfl rfl, rfl, rfl⟩
  | stop he hi hst =>
    refine .inr ⟨(Stays.refl _ k).of_stopEpisode, ?_⟩
    rw [stopEpisode_eq]
    exact ⟨rfl, rfl⟩
  | drain he hp ht hst ho =>
    refine .inr ⟨(habsorb _).of_stopEpisode, ?_⟩
    rw [stopEpisode_eq]
    exact ⟨rfl, rfl⟩
  | undone ls he hp ht =>
    refine .inr ⟨Stays.of_stopEpisode (.of_same rfl rfl rfl), ?_⟩
    rw [stopEpisode_eq]
    exact ⟨rfl, rfl⟩
  | release hh => simp [h.held] at hh
  | _ => exact .inr ⟨.of_same rfl rfl rfl, rfl, rfl⟩

theorem stays_of_callMove {c : Nat} (h1 : OneSession k) (h : InOrder k) (hseat : k.Seated)
    (hm : Move T (.call c) k k') :
    k'.linkUp T = true ∧ k'.Done (.call c) ∨ Stays (.call c) k k' ∧ k'.Seated := by
  have hplain : ∀ {k' : Keeper State Op} {p : CallPhase Op}, k'.state = k.state →
      k'.slot = k.slot → k'.watches = k.watches → k'.calls = k.calls.set c p →
      (∀ target, p ≠ .recorded target) → Stays (.call c) k k' ∧ k'.Seated :=
    fun hst hs hw hc hp => ⟨.of_same hst hs hw, hseat.of_setCall hs hc hp⟩
  cases hm with
  | say ls => exact .inr ⟨.of_same rfl rfl rfl, hseat.of_same rfl rfl⟩
  | @accept _ _ target op _ hc ht ho hs =>
    have hup : (k.absorb (.call c) (k.turn T op)).linkUp T = true := linkUp_of_attemptOutcome ho
    refine .inl ⟨hup, .recorded target, ?_, rfl⟩
    exact getElem?_set_self_of_eq_some hc
  | ensure ls hc =>
    -- there is a session already, so none begins
    obtain ⟨i, hs⟩ := Option.ne_none_iff_exists'.1 (hseat c _ hc)
    obtain ⟨w, hw, hlive, -⟩ := h1.awake_iff.2 hs
    have hp : k.isPolling = true := by simp [isPolling, hs, watchOver, hw, hlive]
    rw [Keeper.ensureWatch, if_pos hp]
    exact .inr ⟨.of_same rfl rfl rfl, hseat.of_setCall rfl rfl (by simp)⟩
  | join hc hs =>
    refine .inr ⟨⟨.inl ?_, .inr ?_, ?_⟩, .join h hc⟩ <;> rw [raiseStop_eq] <;> simp [setCall]
  | joined hc ho =>
    obtain ⟨s, hk⟩ := abortLastEpisode_eq T _ k
    rw [hk]
    exact .inr ⟨.of_modify h1 (h1.joining hc) rfl rfl rfl, hseat.of_same rfl rfl⟩
  | @abort _ _ _ i _ hc ho hd =>
    obtain ⟨s, hk⟩ := abortWatch_eq T i k
    obtain ⟨s', hk'⟩ := abortLastEpisode_eq T i (k.abortWatch T i)
    rw [hk', hk]
    simp only [List.modify_modify_eq]
    exact .inr ⟨.of_modify h1 (h1.joining hc) rfl rfl rfl, hseat.of_same rfl rfl⟩
  | skip hcl hu =>
    refine .inr ⟨(Stays.refl _ k).of_lower.conclude [] c _, ?_⟩
    rw [lower_eq]
    exact hseat.of_setCall rfl rfl (by simp)
  | @closed _ _ ending op _ ls ls' hc ht =>
    have hsaid : Stays (.call c) k ((k.absorb (.call c) (k.turn T op)).say ls) :=
      .of_same rfl rfl rfl
    refine .inr ⟨hsaid.of_lower.conclude ls' c _, ?_⟩
    rw [lower_eq]
    exact hseat.of_setCall rfl rfl (by simp)
  | dial hc hi hs => exact .inr (hplain rfl rfl rfl rfl (by simp))
  | send hc hi hs => exact .inr (hplain rfl rfl rfl rfl (by simp))
  | claim hc hr => exact .inr (hplain rfl rfl rfl rfl (by simp))
  | refuse ls hc hf => exact .inr (hplain rfl rfl rfl rfl (by simp))
  | messages hc => exact .inr (hplain rfl rfl rfl rfl (by simp))
  | dialingCall hc ht => exact .inr (hplain rfl rfl rfl rfl (by simp))
  | dialFailed ls hc ht ho => exact .inr (hplain rfl rfl rfl rfl (by simp))
  | sending hc ht => exact .inr (hplain rfl rfl rfl rfl (by simp))
  | sent hc ht => exact .inr (hplain rfl rfl rfl rfl (by simp))
  | close hcl hu => exact .inr (hplain rfl rfl rfl rfl (by simp))
  | closingCall hc ht => exact .inr (hplain rfl rfl rfl rfl (by simp))
  | release hh => simp [h.held] at hh

/-- While the link is down nobody makes the state connected. -/
theorem stays_of_move (h1 : OneSession k) (h : InOrder k) (hseat : k.Seated)
    (hm : Move T a k k') : k'.linkUp T = true ∧ k'.Done a ∨ Stays a k k' ∧ k'.Seated := by
  rcases a with j | j | j
  · obtain ⟨hstay, hs, hc⟩ := stays_of_watchMove h1 h hm
    exact .inr ⟨hstay, hseat.of_same hs hc⟩
  · rcases stays_of_episodeMove h1 h hm with hup | ⟨hstay, hs, hc⟩
    · exact .inl hup
    · exact .inr ⟨hstay, hseat.of_same hs hc⟩
  · exact stays_of_callMove h1 h hseat hm

theorem stays_of_resume (h1 : OneSession k) (h : InOrder k) (hseat : k.Seated)
    (hr : k.ready T a = true) (hdown : (k.resume T a).linkUp T = false) :
    Stays a k (k.resume T a) ∧ (k.resume T a).Seated := by
  let P := fun k₁ : Keeper State Op => (OneSession k₁ ∧ InOrder k₁) ∧
    (k₁.linkUp T = true ∧ k₁.Done a ∨ Stays a k k₁ ∧ k₁.Seated)
  have hmove : ∀ {k₁ k₂}, Move T a k₁ k₂ → P k₁ → P k₂ := by
    rintro k₁ k₂ hm ⟨⟨h1, h⟩, hup | ⟨hstay, hseat⟩⟩
    · obtain ⟨htransport, hd⟩ := done_of_move h.held hup.2 hm
      exact ⟨⟨h1.move hm, h.move h1 hm⟩, .inl ⟨(linkUp_congr htransport).trans hup.1, hd⟩⟩
    · refine ⟨⟨h1.move hm, h.move h1 hm⟩, (stays_of_move h1 h hseat hm).imp id ?_⟩
      exact fun ⟨hstay', hseat'⟩ => ⟨hstay.trans hstay', hseat'⟩
  have hstart : P k := ⟨⟨h1, h⟩, .inr ⟨.refl a k, hseat⟩⟩
  rcases (moves_keep hmove (resume_moves hr) hstart).2 with ⟨hup, -⟩ | hstay
  · simp [hdown] at hup
  · exact hstay

theorem history_suffix_of_moves (hm : Relation.ReflTransGen (Move T a) k k') :
    k.history <:+ k'.history := by
  refine moves_keep (P := fun k' => k.history <:+ k'.history) (fun hm h => ?_) hm List.suffix_rfl
  obtain ⟨es, hp⟩ := Passes.move hm
  rw [hp.history]
  exact h.trans (List.suffix_append _ _)

/-- An attempt has its first turn as soon as it is made. -/
theorem history_suffix_of_dial {j : Nat} {e₀ : Episode Op} (he : k.episodes[j]? = some e₀)
    (e : Episode Op) (op : Op) : k.history <:+ (k.dial T j e op).history := by
  have hmoves := dial_moves (T := T) (getElem?_setEpisode he { e with phase := .dialing op }) rfl
  rw [dial_setEpisode] at hmoves
  exact history_suffix_of_moves (k := k.setEpisode j _) hmoves

theorem history_suffix_of_dialCall {c : Nat} {p : CallPhase Op} (hc : k.calls[c]? = some p)
    (target : Endpoint) (op : Op) : k.history <:+ (k.dialCall T c target op).history := by
  have hmoves := dialCall_moves (T := T) (getElem?_setCall hc (.dialing target op))
  rw [dialCall_setCall] at hmoves
  exact history_suffix_of_moves (k := k.setCall c _) hmoves

theorem history_suffix_of_next {s : Step State} (hn : k.next? T s = some k') :
    k.history <:+ k'.history := by
  rcases next?_cases hn with ⟨a, -, hr, rfl⟩ | ⟨k₁, hb, hk⟩
  · exact history_suffix_of_moves (resume_moves hr)
  · have hout : k.history <:+ k₁.history := by
      cases hb with
      | call r => exact List.suffix_cons _ _
      | _ => exact List.suffix_rfl
    rcases hk with rfl | rfl
    · exact hout
    · exact hout.trans (history_suffix_of_moves (release_moves (.call 0) k₁))

/-- A watch that looks at a link that is down and was up announces the loss. -/
theorem resume_lost {w : Watch Op} (hw : k.watches[i]? = some w) (hl : w.Looks k.now)
    (hst : w.stopped = false) (hu : k.linkUp T = false) (hseen : w.seenUp = true)
    (hs : k.state ≠ .reconnecting) : (k.resume T (.watch i)).state = .reconnecting ∧
      ∃ es, (k.resume T (.watch i)).history = es ++ k.history ∧
        .noticed (.watch i) (.lost k.config.reconnectTimeoutSecs) ∈ es := by
  have hlook : k.resume T (.watch i) = k.look T i w := by
    rcases hl with hp | ⟨t, -, hp⟩ <;> simp [resume, resumeWatch, hw, hp, hst]
  have hnews : (!w.seenUp || k.state == .reconnecting) = false := by simp [hseen, hs]
  rw [hlook]
  unfold look
  simp only [hst, hu, Bool.false_eq_true, if_false]
  rw [if_neg (by simpa [record] using hnews)]
  split
  · exact ⟨rfl, [.noticed _ _, .stateSet _ _, .logged _, .looked _ _], rfl, by simp [record]⟩
  · unfold Keeper.beginEpisode
    rw [rest_eq]
    exact ⟨rfl, [.episodeBegan _, .noticed (.watch i) (.lost k.config.reconnectTimeoutSecs),
      .stateSet _ _, .logged _, .looked _ _], rfl, by simp⟩

theorem looks_of_ready {w : Watch Op} {t : Nat} (hw : k.watches[i]? = some w)
    (hst : w.stopped = false) (hp : w.phase = .looking ∨ ∃ wake ≤ t, w.phase = .resting wake)
    (hr : k.ready T (.watch i) = true) : w.Looks k.now := by
  rcases hp with hp | ⟨t, -, hp⟩
  · exact .inl hp
  · exact .inr ⟨t, by simpa [ready, hw, watchReady, hp, hst] using hr, hp⟩

/-- Calls are made one after another while the link is down. -/
def Down (T : Transport State Op) (k : Keeper State Op) (s : Step State) : Prop :=
  InTurn k s ∧ k.linkUp T = false

/-- What became of a keeper after the link was down at `k₀`, when watch `i` was to look before
`t`. -/
inductive Alert (k₀ : Keeper State Op) (i t : Nat) (k : Keeper State Op) : Prop
  | attends {w : Watch Op} (hst : k.state = .connected) (hs : k.slot = some i)
      (hw : k.watches[i]? = some w) (hseen : w.seenUp = true)
      (hp : w.phase = .looking ∨ ∃ wake ≤ t, w.phase = .resting wake)
  | noticed {es : List Event} (hst : k.state ≠ .connected) (hh : k.history = es ++ k₀.history)
      (hmem : .noticed (.watch i) (.lost k₀.config.reconnectTimeoutSecs) ∈ es)
  | ended (hi : k.isStopped i = true) (hs : k.state = .connected → k.slot = none)

theorem Stays.not_connected (h : Stays a k k') (hst : k.state ≠ .connected) :
    k'.state ≠ .connected := by
  rcases h.state with hs | ⟨hne, -⟩
  · rwa [hs]
  · exact hne

/-- What is known of a keeper while the link is down. -/
structure Attentive (k₀ : Keeper State Op) (i t : Nat) (k : Keeper State Op) : Prop where
  sessions : OneSession k
  order : InOrder k
  seated : k.Seated
  later : Later k₀ k
  history : k₀.history <:+ k.history
  apart : k₀.state ≠ .connected → k.state ≠ .connected
  alert : k₀.state = .connected → Alert k₀ i t k

namespace Attentive

variable {k₀ : Keeper State Op} {t : Nat}

theorem alert_of_stays {w : Watch Op} (h1 : OneSession k') (ho : InOrder k') (hk : Keeps k k')
    (hstay : Stays a k k') (ha : a ≠ .watch i)
    (hst : k.state = .connected) (hs : k.slot = some i) (hw : k.watches[i]? = some w)
    (hseen : w.seenUp = true) (hp : w.phase = .looking ∨ ∃ wake ≤ t, w.phase = .resting wake) :
    Alert k₀ i t k' := by
  obtain ⟨v, hv, hage⟩ := hk i w hw
  rcases hstay.slot with hslot | hslot
  · have hs' := hslot.trans hs
    obtain ⟨w', hw', hphase, hu⟩ := hstay.watch ha hw hs'
    refine .attends ?_ hs' hw' (hu.trans hseen) (by rwa [hphase])
    rcases hstay.state with hsame | ⟨-, hd | hr | ⟨j, rfl, hj⟩⟩
    · exact hsame.trans hst
    · exact absurd hd (ho.slotted hs')
    · simp [hst] at hr
    · obtain rfl := Option.some.inj (hs.symm.trans hj)
      exact absurd rfl ha
  · refine .ended (isStopped_iff.2 ⟨v, hv, ?_⟩) fun _ => hslot
    rw [← Bool.not_eq_false]
    intro hvs
    have := h1.unstopped hv hvs
    simp [hslot] at this

theorem resume (h : Attentive k₀ i t k) (hr : k.ready T a = true) (hdown : k.linkUp T = false)
    (hdown' : (k.resume T a).linkUp T = false) : Attentive k₀ i t (k.resume T a) := by
  have hn : k.next? T (.resume a) = some (k.resume T a) := by simp [next?, hr]
  have hl := Later.next hn
  have hhist := history_suffix_of_next hn
  obtain ⟨hstay, hseat⟩ := stays_of_resume h.sessions h.order h.seated hr hdown'
  obtain ⟨h1, ho⟩ := moves_keep (P := fun k => OneSession k ∧ InOrder k)
    (fun hm h => ⟨h.1.move hm, h.2.move h.1 hm⟩) (resume_moves hr) ⟨h.sessions, h.order⟩
  have hk : Keeps k (k.resume T a) :=
    moves_keep (fun hm h => h.trans (.move hm)) (resume_moves hr) (.refl k)
  refine ⟨h1, ho, hseat, h.later.trans hl, h.history.trans hhist,
    fun h₀ => hstay.not_connected (h.apart h₀), fun h₀ => ?_⟩
  cases h.alert h₀ with
  | @noticed es hst hh hmem =>
    obtain ⟨es', hes'⟩ := hhist
    have hnew : (k.resume T a).history = (es' ++ es) ++ k₀.history := by
      rw [← hes', hh, List.append_assoc]
    exact .noticed (hstay.not_connected hst) hnew (List.mem_append_right _ hmem)
  | ended hi hs =>
    refine .ended (hl.stopped hi) fun hst => ?_
    rcases hstay.state with hsame | ⟨hne, -⟩
    · have hnone := hs (hsame.symm.trans hst)
      rcases hstay.slot with hslot | hslot
      · exact hslot.trans hnone
      · exact hslot
    · exact absurd hst hne
  | attends hst hs hw hseen hp =>
    by_cases ha : a = .watch i
    · subst ha
      obtain ⟨w', hw', hun⟩ := h.sessions.slot hs
      obtain rfl := Option.some.inj (hw.symm.trans hw')
      have hlooks := looks_of_ready hw hun hp hr
      obtain ⟨hrec, es, hes, hmem⟩ :=
        resume_lost hw hlooks hun hdown hseen (by simp [hst])
      obtain ⟨es₀, hes₀⟩ := h.history
      have hnew : (k.resume T (.watch i)).history = (es ++ es₀) ++ k₀.history := by
        rw [hes, ← hes₀, List.append_assoc]
      rw [h.later.config] at hmem
      exact .noticed (by simp [hrec]) hnew (List.mem_append_left _ hmem)
    · exact alert_of_stays h1 ho hk hstay ha hst hs hw hseen hp

theorem of_same (h : Attentive k₀ i t k) (h1 : OneSession k') (ho : InOrder k')
    (hseat : k'.Seated) (hl : Later k k') (hhist : k.history <:+ k'.history)
    (hst : k'.state = k.state) (hs : k'.slot = k.slot) (hw : k'.watches = k.watches) :
    Attentive k₀ i t k' := by
  refine ⟨h1, ho, hseat, h.later.trans hl, h.history.trans hhist, fun h₀ => hst ▸ h.apart h₀,
    fun h₀ => ?_⟩
  cases h.alert h₀ with
  | attends hst' hs' hw' hseen hp =>
    exact .attends (hst.trans hst') (hs.trans hs') (hw ▸ hw') hseen hp
  | @noticed es hst' hh hmem =>
    obtain ⟨es', hes'⟩ := hhist
    have hnew : k'.history = (es' ++ es) ++ k₀.history := by rw [← hes', hh, List.append_assoc]
    exact .noticed (hst ▸ hst') hnew (List.mem_append_right _ hmem)
  | ended hi hs' => exact .ended (hl.stopped hi) fun h => hs.trans (hs' (hst.symm.trans h))

theorem next {s : Step State} (h : Attentive k₀ i t k) (hok : Down T k s)
    (hn : k.next? T s = some k') (hdown' : k'.linkUp T = false) : Attentive k₀ i t k' := by
  obtain ⟨hturn, hdown⟩ := hok
  have hl := Later.next hn
  have hhist := history_suffix_of_next hn
  cases s with
  | resume a =>
    obtain ⟨hr, rfl⟩ := ready_of_resume hn
    exact h.resume hr hdown hdown'
  | call r =>
    obtain ⟨-, rfl⟩ := held_of_call hn
    have hb : Befalls k (.call r) (k.call r) := .call r
    refine h.of_same (h.sessions.befall hb) (h.order.befall hturn hb) ?_ hl hhist rfl rfl rfl
    intro c target hc
    rcases getElem?_concat_eq_some.1 hc with hc | ⟨-, hc⟩
    · exact h.seated c target hc
    · cases hc
  | pass ms =>
    cases hn
    have hb : Befalls k (.pass ms) { k with now := k.now + ms } := .pass ms
    exact h.of_same (h.sessions.befall hb) (h.order.befall hturn hb) h.seated hl hhist rfl rfl rfl
  | disturb s =>
    cases hn
    have hb : Befalls k (.disturb s) { k with transport := s } := .disturb s
    exact h.of_same (h.sessions.befall hb) (h.order.befall hturn hb) h.seated hl hhist rfl rfl rfl
  | drop => exact hturn.elim

theorem run {ss : List (Step State)} (hr : RunsUnder T (Down T) k ss k')
    (hdown : k'.linkUp T = false) (h : Attentive k₀ i t k) : Attentive k₀ i t k' := by
  induction hr with
  | nil => exact h
  | cons hok hn hr ih =>
    refine ih hdown (h.next hok hn ?_)
    cases hr with
    | nil => exact hdown
    | cons hok' => exact hok'.2

end Attentive

theorem seated_of_inOrder (h : InOrder k) (hs : k.state = .connected → k.slot ≠ none) :
    k.Seated := by
  intro c target hc hnone
  exact hs (h.recorded hc hnone) hnone

theorem phase_of_connected {w : Watch Op} (h1 : OneSession k) (h : InOrder k) (hp : k.Ticks)
    (hst : k.state = .connected) (hs : k.slot = some i) (hw : k.watches[i]? = some w)
    (hpump : ∀ op, w.phase ≠ .pumping op) : w.phase = .looking ∨
      ∃ wake ≤ k.now + k.config.pollInterval, w.phase = .resting wake := by
  obtain ⟨w', hw', hun⟩ := h1.slot hs
  obtain rfl := Option.some.inj (hw.symm.trans hw')
  have hends : w.phase.ends = false := by
    rw [← Bool.not_eq_true]
    intro he
    have := h1.ends hw he
    simp [hun] at this
  have hrep : w.phase.replaces = false := by
    rw [← Bool.not_eq_true]
    intro hr
    have := (h.reconnecting hs hw).2 (.inl hr)
    simp [hst] at this
  rcases hph : w.phase with _ | op | target | t | _ | _ | _
  · exact .inl rfl
  · exact absurd hph (hpump op)
  · simp [hph, WatchPhase.replaces] at hrep
  · exact .inr ⟨t, hp i w t hw hph, rfl⟩
  · simp [hph, WatchPhase.ends] at hends
  · simp [hph, WatchPhase.ends] at hends
  · simp [hph, WatchPhase.ends] at hends

/-- A watch that is to look before now goes on. -/
theorem ready_of_attends {w : Watch Op} {t : Nat} (hw : k.watches[i]? = some w) (ht : t ≤ k.now)
    (hp : w.phase = .looking ∨ ∃ wake ≤ t, w.phase = .resting wake) :
    k.ready T (.watch i) = true := by
  rcases hp with hp | ⟨wake, hle, hp⟩
  · simp [ready, hw, watchReady, hp]
  · have : wake ≤ k.now := hle.trans ht
    simp [ready, hw, watchReady, hp, this]

/-- When calls are made one after another and the link stays down for as long as a watch rests, a
keeper does not stay connected, if its watch is not in a pump and has seen the link up since its
last episode; the loss is announced, or the session was ended. -/
theorem loss_of_run {config : LinkConfig} {transport : State} {installed : Bool}
    {k k' : Keeper State Op} {ss ss' : List (Step State)}
    (h : RunsUnder T InTurn (fresh config transport installed) ss k)
    (hseen : k.state = .connected → ∃ i w, k.slot = some i ∧ k.watches[i]? = some w ∧
      w.seenUp = true ∧ ∀ op, w.phase ≠ .pumping op)
    (h' : RunsUnder T (Down T) k ss' k') (hdown : k'.linkUp T = false)
    (hlate : k.now + config.pollInterval ≤ k'.now) (hidle : k'.idle = true)
    (hset : k'.settled T = true) :
    k'.state ≠ .connected ∧ (k.state = .connected → ∃ i, k.slot = some i ∧
      (k'.isStopped i = true ∨ ∃ es, k'.history = es ++ k.history ∧
        .noticed (.watch i) (.lost config.reconnectTimeoutSecs) ∈ es)) := by
  obtain ⟨h1, ho⟩ := InOrder.run h oneSession_fresh .fresh
  have hcfg : k.config = config := (Later.run h.runs).config
  have hticks : k.Ticks := .run h.runs .fresh
  have hseat : k.Seated := by
    refine seated_of_inOrder ho fun hst => ?_
    obtain ⟨i, w, hs, -⟩ := hseen hst
    simp [hs]
  have hend : ∀ i, (k.state = .connected → Alert k i (k.now + k.config.pollInterval) k) →
      Attentive k i (k.now + k.config.pollInterval) k' := fun i halert =>
    Attentive.run h' hdown ⟨h1, ho, hseat, .refl k, List.suffix_rfl,
      id, halert⟩
  by_cases hst : k.state = .connected
  · obtain ⟨i, w, hs, hw, hu, hpump⟩ := hseen hst
    have hp := phase_of_connected h1 ho hticks hst hs hw hpump
    replace hend := hend i fun _ => .attends hst hs hw hu hp
    cases hend.alert hst with
    | attends hst' hs' hw' hseen' hp' =>
      -- its time has come, and a settled keeper leaves nobody waiting
      have hi := (List.getElem?_eq_some_iff.1 hw').1
      have hnot := List.all_eq_true.1 hset (.watch i) (by simp [actors, hi])
      simp [ready_of_attends (T := T) hw' (hcfg ▸ hlate) hp'] at hnot
    | noticed hst' hh hmem => exact ⟨hst', fun _ => ⟨i, hs, .inr ⟨_, hh, hcfg ▸ hmem⟩⟩⟩
    | ended hi hs' =>
      refine ⟨fun hst' => ?_, fun _ => ⟨i, hs, .inl hi⟩⟩
      have := (hend.order.state_of_idle hidle).1 (by simp [hst'])
      simp [hs' hst'] at this
  · exact ⟨(hend 0 fun h => absurd h hst).apart hst, fun h => absurd h hst⟩

theorem loss_of_run_noticed : ∃ k k' es,
    RunsUnder Rehearsal.stage InTurn (fresh {} {} true)
      (connectingSteps ++ [.disturb { connectDelay := 50 }]) k ∧
    RunsUnder Rehearsal.stage (Down Rehearsal.stage) k
      [.pass 10, .resume (.watch 0), .resume (.episode 0)] k' ∧
    k.state = .connected ∧ k'.state ≠ .connected ∧ k'.history = es ++ k.history ∧
    .noticed (.watch 0) (.lost 300) ∈ es := by
  obtain ⟨k, k', w, hr, hr', hst, hs, hw, hseen, hpump, hun, hdown, hlate, hidle, hset⟩ :
      ∃ (k k' : Keeper Rehearsal.Stage Rehearsal.Op) (w : Watch Rehearsal.Op),
      RunsUnder Rehearsal.stage InTurn (fresh {} {} true)
        (connectingSteps ++ [.disturb { connectDelay := 50 }]) k ∧
      RunsUnder Rehearsal.stage (Down Rehearsal.stage) k
        [.pass 10, .resume (.watch 0), .resume (.episode 0)] k' ∧
      k.state = .connected ∧ k.slot = some 0 ∧ k.watches[0]? = some w ∧ w.seenUp = true ∧
      w.phase = .resting 10 ∧ k'.isStopped 0 = false ∧ k'.linkUp Rehearsal.stage = false ∧
      k.now + 10 ≤ k'.now ∧ k'.idle = true ∧ k'.settled Rehearsal.stage = true :=
    ⟨_, _, _, .cons rfl rfl <| .cons trivial rfl <| .cons trivial rfl <| .cons trivial rfl <|
      .cons trivial rfl <| .nil _,
      .cons ⟨trivial, rfl⟩ rfl <| .cons ⟨trivial, rfl⟩ rfl <| .cons ⟨trivial, rfl⟩ rfl <| .nil _,
      rfl, rfl, rfl, rfl, rfl, rfl, rfl, by decide, rfl, rfl⟩
  obtain ⟨hne, hnews⟩ := loss_of_run hr
    (fun _ => ⟨0, w, hs, hw, hseen, by simp [hpump]⟩) hr' hdown hlate hidle hset
  obtain ⟨i, hi, hstop | ⟨es, hes, hmem⟩⟩ := hnews hst
  · obtain rfl := Option.some.inj (hs.symm.trans hi)
    simp [hun] at hstop
  · obtain rfl := Option.some.inj (hs.symm.trans hi)
    exact ⟨k, k', es, hr, hr', hst, hne, hes, hmem⟩

/-- A connection is lost and comes back between two looks, and is lost again before the second. -/
def flickerSteps : List (Step Rehearsal.Stage) :=
  connectingSteps ++ [.disturb { connectDelay := 5 }, .pass 10, .resume (.watch 0),
    .resume (.episode 0), .pass 5, .resume (.episode 0), .disturb {}]

theorem loss_unseen : ∃ k k',
    RunsUnder Rehearsal.stage InTurn (fresh {} {} true) flickerSteps k ∧
    k.idle = true ∧ k.settled Rehearsal.stage = true ∧ k.state = .connected ∧
    RunsUnder Rehearsal.stage (Down Rehearsal.stage) k
      [.pass 5, .resume (.watch 0), .pass 10, .resume (.watch 0)] k' ∧
    k'.linkUp Rehearsal.stage = false ∧ k.now + k.config.pollInterval < k'.now ∧
    k'.idle = true ∧ k'.settled Rehearsal.stage = true ∧ k'.isPolling = true ∧
    k'.state = .connected :=
  ⟨_, _, .cons rfl rfl <| .cons trivial rfl <| .cons trivial rfl <| .cons trivial rfl <|
    .cons trivial rfl <| .cons trivial rfl <| .cons trivial rfl <| .cons trivial rfl <|
    .cons trivial rfl <| .cons trivial rfl <| .cons trivial rfl <| .nil _,
    rfl, rfl, rfl, .cons ⟨trivial, rfl⟩ rfl <| .cons ⟨trivial, rfl⟩ rfl <|
      .cons ⟨trivial, rfl⟩ rfl <| .cons ⟨trivial, rfl⟩ rfl <| .nil _,
    rfl, by decide, rfl, rfl, rfl, rfl⟩

end Keeper

end SessionKeeper

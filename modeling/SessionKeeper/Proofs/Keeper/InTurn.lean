import SessionKeeper.Proofs.Keeper.Sessions

/-!
# Calls one after another

When calls do not overlap, the state of a keeper tells what its workers do. The slot is empty only
while a call ends a session or records a connection, a watch that was stopped is waited for by the
one call under way, and the watch in the slot is about to begin an episode or has one unless the
state is not reconnecting (`InOrder`, kept by every move in `InOrder.move`). Once the calls have
answered and every actor waits, the state alone remains (`state_of_settled`).
-/

namespace SessionKeeper

variable {State Op : Type}

/-- A watch that has announced a loss and is yet to begin the episode. -/
def WatchPhase.replaces : WatchPhase Op → Bool
  | replacing _ => true
  | _ => false

/-- A call that may have left the slot empty and the state not. -/
def CallPhase.unsettles : CallPhase Op → Bool
  | recorded _ | joining _ _ _ | closing _ _ => true
  | _ => false

/-- A call that has emptied the slot. -/
def CallPhase.clears : CallPhase Op → Bool
  | joining _ _ _ | closing _ _ => true
  | _ => false

theorem CallPhase.answer?_of_unsettles {p : CallPhase Op} (h : p.unsettles = true) :
    p.answer? = none := by
  cases p <;> simp_all [unsettles, answer?]

theorem CallPhase.unsettles_of_clears {p : CallPhase Op} (h : p.clears = true) :
    p.unsettles = true := by
  cases p <;> simp_all [unsettles, clears]

theorem EpisodePhase.over_closing {p : EpisodePhase Op} {op : Op} (h : p = .closing op) :
    p.over = false := by
  rw [h]
  rfl

theorem Watch.Looks.idle {w : Watch Op} {now : Nat} (h : w.Looks now) : w.Idle :=
  h.imp id fun ⟨wake, _, hw⟩ => ⟨wake, hw⟩

theorem Watch.Idle.live {w : Watch Op} (h : w.Idle) : w.phase.over = false := by
  rcases h with h | ⟨t, h⟩ <;> rw [h] <;> rfl

theorem Watch.Idle.replaces {w : Watch Op} (h : w.Idle) : w.phase.replaces = false := by
  rcases h with h | ⟨t, h⟩ <;> rw [h] <;> rfl

theorem Watch.replaces_lastPhase (w : Watch Op) : w.lastPhase.replaces = false := by
  unfold Watch.lastPhase
  split <;> rfl

theorem Watch.replaces_nextPhase (w : Watch Op) (t : Nat) : (w.nextPhase t).replaces = false := by
  unfold Watch.nextPhase
  split
  · exact w.replaces_lastPhase
  · rfl

namespace Keeper

/-- Some episode is not over. -/
def Reconnects (k : Keeper State Op) : Prop :=
  ∃ (j : Nat) (e : Episode Op), k.episodes[j]? = some e ∧ e.phase.over = false

theorem episodeOver_eq_false {j : Nat} {k : Keeper State Op} :
    k.episodeOver j = false ↔ ∃ e, k.episodes[j]? = some e ∧ e.phase.over = false := by
  unfold episodeOver
  rcases k.episodes[j]? with _ | e <;> simp

/-- The order that calls made one after another keep. -/
structure InOrder (k : Keeper State Op) : Prop where
  held : k.held = true
  last : ∀ {c : Nat} {p : CallPhase Op},
    k.calls[c]? = some p → p.answer? = none → c + 1 = k.calls.length
  cleared : ∀ {c : Nat} {p : CallPhase Op},
    k.calls[c]? = some p → p.clears = true → k.slot = none
  stopping : ∀ {i : Nat} {w : Watch Op}, k.watches[i]? = some w → w.phase.over = false →
    w.stopped = true →
      ∃ (c : Nat) (ending : Ending) (d : Nat), k.calls[c]? = some (.joining ending i d)
  slotted : ∀ {i : Nat}, k.slot = some i → k.state ≠ .disconnected
  unslotted : k.slot = none → k.state ≠ .disconnected →
    ∃ (c : Nat) (p : CallPhase Op), k.calls[c]? = some p ∧ p.unsettles = true
  recorded : ∀ {c : Nat} {target : Endpoint}, k.calls[c]? = some (.recorded target) →
    k.slot = none → k.state = .connected
  replacing : ∀ {i : Nat} {w : Watch Op}, k.slot = some i → k.watches[i]? = some w →
    w.phase.replaces = true → ¬ k.Reconnects
  reconnecting : ∀ {i : Nat} {w : Watch Op}, k.slot = some i → k.watches[i]? = some w →
    (k.state = .reconnecting ↔ w.phase.replaces = true ∨ k.Reconnects)
  late : ∀ {j : Nat} {e : Episode Op} {op : Op}, k.episodes[j]? = some e → e.phase = .closing op →
    k.isStopped e.watch = true
  endpoint : k.state ≠ .disconnected → k.endpoint.isSome = true

namespace InOrder

variable {T : Transport State Op} {k k' : Keeper State Op} {i j c : Nat}

theorem slot_of_unstopped (h1 : OneSession k) {e : Episode Op} (he : k.episodes[j]? = some e)
    (hlive : e.phase.over = false) (hst : k.isStopped e.watch = false) : k.slot = some e.watch := by
  obtain ⟨w, hw, -⟩ := h1.owned he hlive
  exact h1.unstopped hw (by simpa [isStopped, hw] using hst)

theorem slot_of_stopped (h : InOrder k) (h1 : OneSession k) {e : Episode Op}
    (he : k.episodes[j]? = some e) (hlive : e.phase.over = false)
    (hst : k.isStopped e.watch = true) : k.slot = none := by
  obtain ⟨w, hw, -, -, ho⟩ := h1.owned he hlive
  obtain ⟨c, ending, d, hc⟩ := h.stopping hw ho (by simpa [isStopped, hw] using hst)
  exact h.cleared hc rfl

/-- All episodes but one of the watch in the slot are over. -/
theorem unique_of_unstopped (h : InOrder k) (h1 : OneSession k) {e : Episode Op}
    (he : k.episodes[j]? = some e) (hlive : e.phase.over = false)
    (hst : k.isStopped e.watch = false) {j' : Nat} {e' : Episode Op}
    (he' : k.episodes[j']? = some e') (hlive' : e'.phase.over = false) : j' = j := by
  have hs := slot_of_unstopped h1 he hlive hst
  have hst' : k.isStopped e'.watch = false := by
    rw [Bool.eq_false_iff]
    intro hst'
    simp [h.slot_of_stopped h1 he' hlive' hst'] at hs
  exact (h1.began_of_trying ⟨e', he', hlive', hst'⟩).unique (h1.began_of_trying ⟨e, he, hlive, hst⟩)

/-- One call at most is under way. -/
theorem call_unique (h : InOrder k) {c' : Nat} {p p' : CallPhase Op} (hc : k.calls[c]? = some p)
    (ha : p.answer? = none) (hc' : k.calls[c']? = some p') (ha' : p'.answer? = none) : c = c' := by
  have := h.last hc ha
  have := h.last hc' ha'
  omega

/-- A call under way is still the last one after it has gone on. -/
theorem last_set (h : InOrder k) {p p' q : CallPhase Op} (hc : k.calls[c]? = some p)
    (ha : p.answer? = none) {c' : Nat} (hq : (k.calls.set c p')[c']? = some q)
    (hn : q.answer? = none) : c' + 1 = (k.calls.set c p').length := by
  rw [List.length_set]
  rcases getElem?_set_eq_some hq with ⟨rfl, -⟩ | ⟨-, hq⟩
  · exact h.last hc ha
  · exact h.last hq hn

/-- A watch that goes on after it was stopped did so before. -/
theorem stopping_modify (h : InOrder k) {f : Watch Op → Watch Op} {n : Nat} {v : Watch Op}
    (hf : ∀ {w}, k.watches[i]? = some w → (f w).phase.over = false → (f w).stopped = true →
      w.phase.over = false ∧ w.stopped = true)
    (hv : (k.watches.modify i f)[n]? = some v) (ho : v.phase.over = false)
    (hst : v.stopped = true) :
    ∃ (c : Nat) (ending : Ending) (d : Nat), k.calls[c]? = some (.joining ending n d) := by
  obtain ⟨w, hw, rfl⟩ := getElem?_modify_eq_some.1 hv
  split at ho <;> rename_i hin
  · subst hin
    rw [if_pos rfl] at hst
    obtain ⟨ho', hst'⟩ := hf hw ho hst
    exact h.stopping hw ho' hst'
  · rw [if_neg hin] at hst
    exact h.stopping hw ho hst

theorem of_same (h : InOrder k) (hs : k'.slot = k.slot) (hst : k'.state = k.state)
    (hend : k'.endpoint = k.endpoint) (hw : k'.watches = k.watches)
    (he : k'.episodes = k.episodes) (hc : k'.calls = k.calls) (hh : k'.held = k.held) :
    InOrder k' := by
  have hR : k'.Reconnects ↔ k.Reconnects := by unfold Reconnects; rw [he]
  exact
    { held := hh ▸ h.held
      last := by rw [hc]; exact h.last
      cleared := by rw [hc, hs]; exact h.cleared
      stopping := by rw [hw, hc]; exact h.stopping
      slotted := by rw [hs, hst]; exact h.slotted
      unslotted := by rw [hs, hst, hc]; exact h.unslotted
      recorded := by rw [hs, hst, hc]; exact h.recorded
      replacing := by rw [hs, hw, hR]; exact h.replacing
      reconnecting := by rw [hs, hw, hst, hR]; exact h.reconnecting
      late := by
        intro j e op hj hp
        rw [he] at hj
        rw [isStopped_congr hw]
        exact h.late hj hp
      endpoint := by rw [hst, hend]; exact h.endpoint }

/-- A watch goes on and the state stays as it is. -/
theorem of_setWatch {w w' : Watch Op} (h : InOrder k) (hw : k.watches[i]? = some w)
    (hw' : k'.watches = k.watches.set i w') (hs : k'.slot = k.slot) (hst : k'.state = k.state)
    (hend : k'.endpoint = k.endpoint) (he : k'.episodes = k.episodes) (hc : k'.calls = k.calls)
    (hh : k'.held = k.held) (hstop : w'.stopped = w.stopped) (hover : w.phase.over = false)
    (hrep : w.phase.replaces = false) (hrep' : w'.phase.replaces = false) : InOrder k' := by
  have hR : k'.Reconnects ↔ k.Reconnects := by unfold Reconnects; rw [he]
  exact
    { held := hh ▸ h.held
      last := by rw [hc]; exact h.last
      cleared := by rw [hc, hs]; exact h.cleared
      stopping := by
        intro n v hv ho hvs
        rw [hw', set_eq_modify (fun _ => w') hw] at hv
        rw [hc]
        refine h.stopping_modify (fun hu _ hus => ?_) hv ho hvs
        obtain rfl := Option.some.inj (hu.symm.trans hw)
        exact ⟨hover, hstop.symm.trans hus⟩
      slotted := by rw [hs, hst]; exact h.slotted
      unslotted := by rw [hs, hst, hc]; exact h.unslotted
      recorded := by rw [hs, hst, hc]; exact h.recorded
      replacing := by
        intro n v hn hv hr
        rw [hs] at hn
        rw [hw'] at hv
        rw [hR]
        rcases getElem?_set_eq_some hv with ⟨-, rfl⟩ | ⟨-, hv⟩
        · exact absurd hr (by simp [hrep'])
        · exact h.replacing hn hv hr
      reconnecting := by
        intro n v hn hv
        rw [hs] at hn
        rw [hw'] at hv
        rw [hR, hst]
        rcases getElem?_set_eq_some hv with ⟨rfl, rfl⟩ | ⟨-, hv⟩
        · rw [h.reconnecting hn hw, hrep, hrep']
        · exact h.reconnecting hn hv
      late := by
        rw [he]
        exact fun hj hp => isStopped_set hw hw' hstop.trans (h.late hj hp)
      endpoint := by rw [hst, hend]; exact h.endpoint }

/-- An episode goes on and the state stays as it is. -/
theorem of_setEpisode {e e' : Episode Op} (h : InOrder k) (he : k.episodes[j]? = some e)
    (he' : k'.episodes = k.episodes.set j e') (hs : k'.slot = k.slot) (hst : k'.state = k.state)
    (hend : k'.endpoint = k.endpoint) (hw : k'.watches = k.watches) (hc : k'.calls = k.calls)
    (hh : k'.held = k.held) (hwatch : e'.watch = e.watch) (hlive : e.phase.over = false)
    (hlive' : e'.phase.over = false)
    (hlate : ∀ op, e'.phase = .closing op → k.isStopped e.watch = true) : InOrder k' := by
  have hR : k'.Reconnects ↔ k.Reconnects := by
    unfold Reconnects
    rw [he']
    constructor
    · rintro ⟨j', e'', hj', ho⟩
      rcases getElem?_set_eq_some hj' with ⟨rfl, -⟩ | ⟨-, hj'⟩
      · exact ⟨j, e, he, hlive⟩
      · exact ⟨j', e'', hj', ho⟩
    · rintro ⟨j', e'', hj', ho⟩
      by_cases hjj : j = j'
      · exact ⟨j, e', getElem?_set_self_of_eq_some he, hlive'⟩
      · exact ⟨j', e'', by rwa [List.getElem?_set_ne hjj], ho⟩
  exact
    { held := hh ▸ h.held
      last := by rw [hc]; exact h.last
      cleared := by rw [hc, hs]; exact h.cleared
      stopping := by rw [hw, hc]; exact h.stopping
      slotted := by rw [hs, hst]; exact h.slotted
      unslotted := by rw [hs, hst, hc]; exact h.unslotted
      recorded := by rw [hs, hst, hc]; exact h.recorded
      replacing := by rw [hs, hw, hR]; exact h.replacing
      reconnecting := by rw [hs, hw, hR, hst]; exact h.reconnecting
      late := by
        intro j' e'' op hj hp
        rw [he'] at hj
        rw [isStopped_congr hw]
        rcases getElem?_set_eq_some hj with ⟨-, rfl⟩ | ⟨-, hj⟩
        · rw [hwatch]
          exact hlate op hp
        · exact h.late hj hp
      endpoint := by rw [hst, hend]; exact h.endpoint }

/-- An episode that is over is not late. -/
theorem late_set {e' : Episode Op} (h : InOrder k) (hover : e'.phase.over = true) {j' : Nat}
    {e : Episode Op} {op : Op} (he : (k.episodes.set j e')[j']? = some e)
    (hp : e.phase = .closing op) : k.isStopped e.watch = true := by
  rcases getElem?_set_eq_some he with ⟨-, rfl⟩ | ⟨-, he⟩
  · exact nomatch (EpisodePhase.over_closing hp).symm.trans hover
  · exact h.late he hp

/-- The episode of the current session ends. -/
theorem of_endEpisode {e e' : Episode Op} (h : InOrder k) (h1 : OneSession k)
    (he : k.episodes[j]? = some e) (he' : k'.episodes = k.episodes.set j e') (hs : k'.slot = k.slot)
    (hend : k'.endpoint = k.endpoint) (hw : k'.watches = k.watches) (hc : k'.calls = k.calls)
    (hh : k'.held = k.held) (hlive : e.phase.over = false)
    (hover : e'.phase.over = true) (hunst : k.isStopped e.watch = false)
    (hst : k'.state ≠ .disconnected) (hst' : k'.state ≠ .reconnecting) : InOrder k' := by
  have hslot := slot_of_unstopped h1 he hlive hunst
  have hR : ¬ k'.Reconnects := by
    rintro ⟨j', e'', hj', ho⟩
    rw [he'] at hj'
    rcases getElem?_set_eq_some hj' with ⟨-, rfl⟩ | ⟨hne, hj'⟩
    · rw [hover] at ho
      cases ho
    · exact hne (h.unique_of_unstopped h1 he hlive hunst hj' ho).symm
  have hrep : ∀ w, k.watches[e.watch]? = some w → w.phase.replaces = false := by
    intro w hw
    rw [Bool.eq_false_iff]
    exact fun hr => h.replacing hslot hw hr ⟨j, e, he, hlive⟩
  exact
    { held := hh ▸ h.held
      last := by rw [hc]; exact h.last
      cleared := by rw [hc, hs]; exact h.cleared
      stopping := by rw [hw, hc]; exact h.stopping
      slotted := fun _ => hst
      unslotted := by simp [hs, hslot]
      recorded := by simp [hs, hslot]
      replacing := fun _ _ _ => hR
      reconnecting := by
        intro n w hn hv
        rw [hs, hslot] at hn
        obtain rfl := Option.some.inj hn
        rw [hw] at hv
        simp [hst', hrep w hv, hR]
      late := by
        intro j' e'' op hj hp
        rw [he'] at hj
        rw [isStopped_congr hw]
        exact h.late_set hover hj hp
      endpoint := fun _ => by rw [hend]; exact h.endpoint (h.slotted hslot) }

/-- An episode of a session that is stopped ends. -/
theorem of_stopEpisode {e e' : Episode Op} (h : InOrder k) (h1 : OneSession k)
    (he : k.episodes[j]? = some e) (he' : k'.episodes = k.episodes.set j e') (hs : k'.slot = k.slot)
    (hend : k'.endpoint = k.endpoint) (hw : k'.watches = k.watches) (hc : k'.calls = k.calls)
    (hh : k'.held = k.held) (hlive : e.phase.over = false)
    (hover : e'.phase.over = true) (hst : k.isStopped e.watch = true)
    (hst' : k'.state = if k.state = .reconnecting then .disconnected else k.state) :
    InOrder k' := by
  have hnone := h.slot_of_stopped h1 he hlive hst
  obtain ⟨w, hwe, -, -, ho⟩ := h1.owned he hlive
  obtain ⟨c, ending, d, hcall⟩ := h.stopping hwe ho (by simpa [isStopped, hwe] using hst)
  exact
    { held := hh ▸ h.held
      last := by rw [hc]; exact h.last
      cleared := by rw [hc, hs]; exact h.cleared
      stopping := by rw [hw, hc]; exact h.stopping
      slotted := by simp [hs, hnone]
      unslotted := fun _ _ => ⟨c, _, hc ▸ hcall, rfl⟩
      recorded := by
        rw [hc]
        intro c' target hc'
        obtain rfl := h.call_unique hcall rfl hc' rfl
        rw [hcall] at hc'
        cases hc'
      replacing := by simp [hs, hnone]
      reconnecting := by simp [hs, hnone]
      late := by
        intro j' e'' op hj hp
        rw [he'] at hj
        rw [isStopped_congr hw]
        exact h.late_set hover hj hp
      endpoint := by
        rw [hend, hst']
        split
        · exact fun hne => absurd rfl hne
        · exact h.endpoint }

/-- A call goes on that neither ends a session nor begins one. -/
theorem of_setCall {p p' : CallPhase Op} (h : InOrder k) (hcall : k.calls[c]? = some p)
    (ha : p.answer? = none) (hu : p.unsettles = true → k.slot ≠ none) (hu' : p'.unsettles = false)
    (hc : k'.calls = k.calls.set c p') (hs : k'.slot = k.slot) (hst : k'.state = k.state)
    (hend : k'.endpoint = k.endpoint) (hw : k'.watches = k.watches)
    (he : k'.episodes = k.episodes) (hh : k'.held = k.held) : InOrder k' := by
  have hR : k'.Reconnects ↔ k.Reconnects := by unfold Reconnects; rw [he]
  have hkept : ∀ {c' : Nat} {q : CallPhase Op}, (k.calls.set c p')[c']? = some q →
      q.unsettles = true → k.calls[c']? = some q := by
    intro c' q hq hqu
    rcases getElem?_set_eq_some hq with ⟨-, rfl⟩ | ⟨-, hq⟩
    · rw [hu'] at hqu
      cases hqu
    · exact hq
  -- A call that has left the slot empty is not the one that goes on.
  have hleft : ∀ {c' : Nat} {q : CallPhase Op}, k.calls[c']? = some q → q.unsettles = true →
      k.slot = none → (k.calls.set c p')[c']? = some q := by
    intro c' q hq hqu hnone
    rw [List.getElem?_set_ne, hq]
    rintro rfl
    obtain rfl := Option.some.inj (hcall.symm.trans hq)
    exact hu hqu hnone
  exact
    { held := hh ▸ h.held
      last := by rw [hc]; exact h.last_set hcall ha
      cleared := by
        rw [hc, hs]
        exact fun hq hcl => h.cleared (hkept hq (CallPhase.unsettles_of_clears hcl)) hcl
      stopping := by
        rw [hw, hc]
        intro n w hv ho hvs
        obtain ⟨c', ending, d, hj⟩ := h.stopping hv ho hvs
        exact ⟨c', ending, d, hleft hj rfl (h.cleared hj rfl)⟩
      slotted := by rw [hs, hst]; exact h.slotted
      unslotted := by
        rw [hs, hst, hc]
        intro hnone hne
        obtain ⟨c', q, hq, hqu⟩ := h.unslotted hnone hne
        exact ⟨c', q, hleft hq hqu hnone, hqu⟩
      recorded := by
        rw [hs, hst, hc]
        exact fun hq => h.recorded (hkept hq rfl)
      replacing := by rw [hs, hw, hR]; exact h.replacing
      reconnecting := by rw [hs, hw, hR, hst]; exact h.reconnecting
      late := by
        intro j e op hj hp
        rw [he] at hj
        rw [isStopped_congr hw]
        exact h.late hj hp
      endpoint := by rw [hst, hend]; exact h.endpoint }

theorem lose {w : Watch Op} {up : Bool} {target : Endpoint} (h : InOrder k) (h1 : OneSession k)
    (hw : k.watches[i]? = some w) (hst : w.stopped = false) (hs : k.state ≠ .reconnecting) :
    InOrder (((k.record (.looked i up)).lose i).setWatch
      i { w with seenUp := false, phase := .replacing target }) := by
  have hslot := h1.unstopped hw hst
  have hR : ¬ k.Reconnects := fun hr => hs ((h.reconnecting hslot hw).2 (.inr hr))
  have hi := (List.getElem?_eq_some_iff.1 hw).1
  simp only [Keeper.lose, setWatch, log, setState, notify, record]
  exact
    { held := h.held
      last := h.last
      cleared := h.cleared
      stopping := by
        intro n v hv ho hvs
        rw [set_eq_modify (fun _ => _) hw] at hv
        refine h.stopping_modify (fun _ _ hus => ?_) hv ho hvs
        rw [hst] at hus
        cases hus
      slotted := by simp
      unslotted := by simp [hslot]
      recorded := by simp [hslot]
      replacing := fun _ _ _ => hR
      reconnecting := by
        intro i' w' hs' hw'
        rw [hslot] at hs'
        cases hs'
        rw [List.getElem?_set_self hi] at hw'
        cases hw'
        exact ⟨fun _ => .inl rfl, fun _ => rfl⟩
      late := fun hj hp => isStopped_set hw rfl (fun h => h) (h.late hj hp)
      endpoint := fun _ => h.endpoint (h.slotted hslot) }

theorem beginEpisode {w : Watch Op} {target : Endpoint} (h : InOrder k) (h1 : OneSession k)
    (hw : k.watches[i]? = some w) (hp : w.phase = .replacing target) :
    InOrder (k.beginEpisode i w target) := by
  have hi := (List.getElem?_eq_some_iff.1 hw).1
  have hslot : ∀ {i'}, k.slot = some i' → i' = i ∧ w.stopped = false := by
    intro i' hs
    have hst : w.stopped = false := by
      rw [Bool.eq_false_iff]
      intro hst
      obtain ⟨c, ending, d, hc⟩ := h.stopping hw (by rw [hp]; rfl) hst
      simp [h.cleared hc rfl] at hs
    have := h1.unstopped hw hst
    exact ⟨by rw [this] at hs; exact (Option.some.inj hs).symm, hst⟩
  have hR : (k.beginEpisode i w target).Reconnects :=
    ⟨k.episodes.length, { watch := i, target, since := k.now }, by
      simp [Keeper.beginEpisode, rest_eq, setWatch, record], rfl⟩
  have hover : w.phase.over = false := by rw [hp]; rfl
  revert hR
  simp only [Keeper.beginEpisode, rest_eq, setWatch, record]
  intro hR
  exact
    { held := h.held
      last := h.last
      cleared := h.cleared
      stopping := by
        intro n v hv ho hvs
        rw [set_eq_modify (fun _ => _) hw] at hv
        refine h.stopping_modify (fun hu _ hus => ?_) hv ho hvs
        obtain rfl := Option.some.inj (hu.symm.trans hw)
        exact ⟨hover, hus⟩
      slotted := h.slotted
      unslotted := h.unslotted
      recorded := h.recorded
      replacing := by
        intro i' w' hs' hw' hr
        obtain ⟨rfl, hst⟩ := hslot hs'
        rw [List.getElem?_set_self hi] at hw'
        cases hw'
        simp [Watch.nextPhase, hst, WatchPhase.replaces] at hr
      reconnecting := by
        intro i' w' hs' hw'
        obtain ⟨rfl, hst⟩ := hslot hs'
        exact ⟨fun _ => .inr hR, fun _ => (h.reconnecting hs' hw).2 (.inl (by rw [hp]; rfl))⟩
      late := by
        intro j e op hj hp'
        rcases getElem?_concat_eq_some.1 hj with hj | ⟨-, rfl⟩
        · exact isStopped_set hw rfl (fun h => h) (h.late hj hp')
        · cases hp'
      endpoint := h.endpoint }

/-- The session that a recorded connection is to get is there already, or there is none at all. -/
theorem quiet_of_recorded {target : Endpoint} (h : InOrder k) (h1 : OneSession k)
    (hc : k.calls[c]? = some (.recorded target)) (hs : k.slot = none) :
    (∀ {i : Nat} {w : Watch Op}, k.watches[i]? = some w → w.phase.over = true) ∧
      ¬ k.Reconnects := by
  have hquiet : ∀ {i : Nat} {w : Watch Op}, k.watches[i]? = some w → w.phase.over = true := by
    intro i w hw
    by_contra ho
    rw [Bool.not_eq_true] at ho
    rcases hst : w.stopped with _ | _
    · simp [h1.unstopped hw hst] at hs
    · obtain ⟨c', ending, d, hj⟩ := h.stopping hw ho hst
      obtain rfl := h.call_unique hc rfl hj rfl
      exact nomatch hc.symm.trans hj
  refine ⟨hquiet, fun ⟨j, e, he, hlive⟩ => ?_⟩
  obtain ⟨w, hw, -, -, ho⟩ := h1.owned he hlive
  simp [hquiet hw] at ho

theorem ensureWatch {target : Endpoint} {a : Answer} (h : InOrder k) (h1 : OneSession k)
    (hc : k.calls[c]? = some (.recorded target)) :
    InOrder (k.ensureWatch.setCall c (.answered a)) := by
  rcases hs : k.slot with _ | i
  · obtain ⟨hquiet, hR⟩ := h.quiet_of_recorded h1 hc hs
    have hstate := h.recorded hc hs
    have hpoll : k.isPolling = false := by simp [isPolling, hs]
    simp only [Keeper.ensureWatch, hpoll, record, setCall]
    exact
      { held := h.held
        last := h.last_set hc rfl
        cleared := by
          intro c' p hp hcl
          rcases getElem?_set_eq_some hp with ⟨rfl, rfl⟩ | ⟨hne, hp⟩
          · cases hcl
          · have hans := CallPhase.answer?_of_unsettles (CallPhase.unsettles_of_clears hcl)
            exact absurd (h.call_unique hc rfl hp hans) hne
        stopping := by
          intro i w hw ho hst
          rcases getElem?_concat_eq_some.1 hw with hw | ⟨-, rfl⟩
          · simp [hquiet hw] at ho
          · cases hst
        slotted := by simp [hstate]
        unslotted := by simp
        recorded := by simp
        replacing := fun _ _ _ => hR
        reconnecting := by
          intro i w hi' hw
          obtain ⟨rfl⟩ := hi'
          obtain rfl : {} = w := by simpa using hw
          refine ⟨fun h => by simp [hstate] at h, fun h => ?_⟩
          exact absurd (h.resolve_left Bool.false_ne_true) hR
        late := fun hj hp => isStopped_concat rfl (h.late hj hp)
        endpoint := h.endpoint }
  · obtain ⟨w, hw, ho, -⟩ := h1.awake_iff.2 hs
    have hpoll : k.isPolling = true := by simp [isPolling, hs, watchOver, hw, ho]
    simp only [Keeper.ensureWatch, hpoll, if_true]
    exact h.of_setCall hc rfl (by simp [hs]) rfl rfl rfl rfl rfl rfl rfl rfl

theorem accept {target : Endpoint} {op : Op} (h : InOrder k)
    (hc : k.calls[c]? = some (.dialing target op)) (hs : k.state ≠ .reconnecting) :
    InOrder { k with
      state := .connected
      endpoint := some target
      calls := k.calls.set c (.recorded target) } := by
  have hi := (List.getElem?_eq_some_iff.1 hc).1
  exact
    { held := h.held
      last := h.last_set hc rfl
      cleared := by
        intro c' p hp hcl
        rcases getElem?_set_eq_some hp with ⟨-, rfl⟩ | ⟨-, hp⟩
        · cases hcl
        · exact h.cleared hp hcl
      stopping := by
        intro i w hw ho hst
        obtain ⟨c', ending, d, hj⟩ := h.stopping hw ho hst
        refine ⟨c', ending, d, ?_⟩
        rw [List.getElem?_set_ne, hj]
        rintro rfl
        exact nomatch hc.symm.trans hj
      slotted := fun _ => nofun
      unslotted := fun _ _ => ⟨c, _, List.getElem?_set_self hi, rfl⟩
      recorded := fun _ _ => rfl
      replacing := h.replacing
      reconnecting := by
        intro i w hsl hw
        have := h.reconnecting hsl hw
        have hR : Reconnects { k with
          state := .connected
          endpoint := some target
          calls := k.calls.set c (.recorded target) } ↔ k.Reconnects := .rfl
        rw [hR, ← this]
        simp [hs]
      late := h.late
      endpoint := fun _ => rfl }

theorem join {d : Nat} {ending : Ending} (h : InOrder k)
    (hc : k.calls[c]? = some (.claiming ending)) (hs : k.slot = some i) :
    InOrder (({ k with slot := none }.raiseStop i).setCall c (.joining ending i d)) := by
  have hi := (List.getElem?_eq_some_iff.1 hc).1
  rw [raiseStop_eq]
  simp only [setCall]
  exact
    { held := h.held
      last := h.last_set hc rfl
      cleared := by simp
      stopping := by
        intro i' w hw ho hst
        by_cases hii : i = i'
        · subst hii
          exact ⟨c, ending, d, List.getElem?_set_self hi⟩
        · simp only [List.getElem?_modify_ne _ _ hii] at hw
          obtain ⟨c', ending', d', hj⟩ := h.stopping hw ho hst
          simp [h.cleared hj rfl] at hs
      slotted := by simp
      unslotted := fun _ _ => ⟨c, _, List.getElem?_set_self hi, rfl⟩
      recorded := by
        intro c' target hc'
        rcases getElem?_set_eq_some hc' with ⟨-, hq⟩ | ⟨hne, hc'⟩
        · cases hq
        · exact absurd (h.call_unique hc rfl hc' rfl) hne
      replacing := by simp
      reconnecting := by simp
      late := fun hj hp => isStopped_modify rfl (fun _ _ => rfl) (h.late hj hp)
      endpoint := h.endpoint }

theorem abortLastEpisode (h : InOrder k) (hs : k.slot = none) :
    InOrder (k.abortLastEpisode T i) := by
  obtain ⟨s, hk⟩ := abortLastEpisode_eq T i k
  rw [hk]
  exact
    { held := h.held
      last := h.last
      cleared := h.cleared
      stopping := h.stopping_modify fun _ ho hst => ⟨ho, hst⟩
      slotted := h.slotted
      unslotted := h.unslotted
      recorded := h.recorded
      replacing := by simp [hs]
      reconnecting := by simp [hs]
      late := by
        intro j e op hj hp
        obtain ⟨e₀, he₀, ⟨rfl, -⟩ | rfl⟩ := getElem?_of_abort hj
        · exact isStopped_modify rfl (fun _ h => h) (h.late he₀ hp)
        · exact nomatch (EpisodePhase.over_closing hp).symm.trans e₀.abort_over
      endpoint := h.endpoint }

theorem abortWatch (h : InOrder k) (hs : k.slot = none) :
    InOrder (k.abortWatch T i) := by
  obtain ⟨s, hk⟩ := abortWatch_eq T i k
  rw [hk]
  exact
    { held := h.held
      last := h.last
      cleared := h.cleared
      stopping := h.stopping_modify fun {w} _ ho _ => nomatch ho.symm.trans w.abort_over
      slotted := h.slotted
      unslotted := h.unslotted
      recorded := h.recorded
      replacing := by simp [hs]
      reconnecting := by simp [hs]
      late := fun hj hp => isStopped_modify rfl (fun w h => w.abort_stopped.trans h) (h.late hj hp)
      endpoint := h.endpoint }

/-- A call that ends a session goes on, past the wait for the watch. -/
theorem of_close {p p' : CallPhase Op} (h : InOrder k) (hcall : k.calls[c]? = some p)
    (hc : k'.calls = k.calls.set c p') (ha : p.answer? = none) (hs : k.slot = none)
    (hover : ∀ ending i d, p = .joining ending i d → k.watchOver i = true)
    (hr : ∀ target, p' ≠ .recorded target)
    (hst : k'.state = k.state ∧ p'.unsettles = true ∨ k'.state = .disconnected)
    (hs' : k'.slot = k.slot)
    (hend : k'.endpoint = k.endpoint) (hw : k'.watches = k.watches)
    (he : k'.episodes = k.episodes) (hh : k'.held = k.held) : InOrder k' := by
  have hi := (List.getElem?_eq_some_iff.1 hcall).1
  exact
    { held := hh ▸ h.held
      last := by rw [hc]; exact h.last_set hcall ha
      cleared := by simp [hs', hs]
      stopping := by
        rw [hw]
        intro n w hv ho hvs
        obtain ⟨c', ending, d, hj⟩ := h.stopping hv ho hvs
        obtain rfl := h.call_unique hcall ha hj rfl
        have := hover ending n d (Option.some.inj (hcall.symm.trans hj))
        simp [watchOver, hv, ho] at this
      slotted := by simp [hs', hs]
      unslotted := by
        intro _ hne
        rcases hst with ⟨-, hu⟩ | hst
        · exact ⟨c, p', by rw [hc, List.getElem?_set_self hi], hu⟩
        · exact absurd hst hne
      recorded := by
        rw [hc]
        intro c' target hc'
        rcases getElem?_set_eq_some hc' with ⟨-, hq⟩ | ⟨hne, hc'⟩
        · exact absurd hq (hr target)
        · exact absurd (h.call_unique hcall ha hc' rfl) hne
      replacing := by simp [hs', hs]
      reconnecting := by simp [hs', hs]
      late := by
        intro j e op hj hp
        rw [he] at hj
        rw [isStopped_congr hw]
        exact h.late hj hp
      endpoint := by
        rw [hend]
        intro hne
        rcases hst with ⟨hst, -⟩ | hst
        · exact h.endpoint (hst ▸ hne)
        · exact absurd hst hne }

theorem of_closes {ending : Ending} (h : InOrder k) (hc : k.Closes c ending) :
    ∃ p, k.calls[c]? = some p ∧ p.answer? = none ∧ k.slot = none ∧
      ∀ ending i d, p = .joining ending i d → k.watchOver i = true := by
  rcases hc with ⟨hc, hs⟩ | ⟨i, d, hc, ho, -⟩
  · exact ⟨_, hc, rfl, hs, nofun⟩
  · refine ⟨_, hc, rfl, h.cleared hc rfl, fun ending' i' d' hp => ?_⟩
    cases hp
    exact ho

theorem befall {s : Step State} (h : InOrder k) (hok : InTurn k s) (hb : Befalls k s k') :
    InOrder k' := by
  cases hb with
  | call r =>
    have hidle : k.idle = true := hok
    have hans : ∀ {c : Nat} {p : CallPhase Op}, k.calls[c]? = some p → p.answer? ≠ none := by
      intro c p hc ha
      have := List.all_eq_true.1 hidle p (List.mem_of_getElem? hc)
      simp [ha] at this
    simp only [Keeper.call, record]
    exact
      { held := h.held
        last := by
          intro c p hc ha
          rcases getElem?_concat_eq_some.1 hc with hc | ⟨rfl, -⟩
          · exact absurd ha (hans hc)
          · rw [List.length_append]
            rfl
        cleared := by
          intro c p hc hcl
          rcases getElem?_concat_eq_some.1 hc with hc | ⟨-, rfl⟩
          · exact h.cleared hc hcl
          · cases hcl
        stopping := by
          intro i w hw ho hst
          obtain ⟨c', ending, d, hj⟩ := h.stopping hw ho hst
          exact absurd rfl (hans hj)
        slotted := h.slotted
        unslotted := by
          intro hs hne
          obtain ⟨c, p, hc, hu⟩ := h.unslotted hs hne
          exact absurd (CallPhase.answer?_of_unsettles hu) (hans hc)
        recorded := by
          intro c target hc
          rcases getElem?_concat_eq_some.1 hc with hc | ⟨-, hc⟩
          · exact absurd rfl (hans hc)
          · cases hc
        replacing := h.replacing
        reconnecting := h.reconnecting
        late := h.late
        endpoint := h.endpoint }
  | pass ms => exact h.of_same rfl rfl rfl rfl rfl rfl rfl
  | disturb s => exact h.of_same rfl rfl rfl rfl rfl rfl rfl
  | drop => exact hok.elim

theorem move {a : Actor} (h : InOrder k) (h1 : OneSession k) (hm : Move T a k k') :
    InOrder k' := by
  cases hm with
  | say ls => exact h.of_same rfl rfl rfl rfl rfl rfl rfl
  | leave hw hi hst =>
    exact h.of_setWatch hw rfl rfl rfl rfl rfl rfl rfl rfl hi.live hi.replaces
      (Watch.replaces_lastPhase _)
  | sight hw hl hst hu =>
    exact h.of_setWatch hw rfl rfl rfl rfl rfl rfl rfl rfl hl.idle.live hl.idle.replaces rfl
  | pumping hw hp ht =>
    exact h.of_setWatch hw rfl rfl rfl rfl rfl rfl rfl rfl (by rw [hp]; rfl) (by rw [hp]; rfl) rfl
  | pumped ls hw hp ht =>
    rw [rest_eq, forward_eq]
    exact h.of_setWatch hw rfl rfl rfl rfl rfl rfl rfl rfl (by rw [hp]; rfl) (by rw [hp]; rfl)
      (Watch.replaces_nextPhase _ _)
  | ignore hw hl hst hu hn =>
    rw [rest_eq]
    exact h.of_setWatch hw rfl rfl rfl rfl rfl rfl rfl rfl hl.idle.live hl.idle.replaces
      (Watch.replaces_nextPhase _ _)
  | lose hw hl hst hu hseen hs => exact h.lose h1 hw hst hs
  | beginEpisode hw hp ho => exact h.beginEpisode h1 hw hp
  | finish hw hp ho =>
    exact h.of_setWatch hw rfl rfl rfl rfl rfl rfl rfl rfl (by rw [hp]; rfl) (by rw [hp]; rfl) rfl
  | announce he ht hst hl =>
    exact h.of_setEpisode he rfl rfl rfl rfl rfl rfl rfl rfl ht.live rfl nofun
  | timeOut he ht hst hl =>
    exact h.of_endEpisode h1 he rfl rfl rfl rfl rfl rfl ht.live rfl hst nofun nofun
  | stop he hi hst =>
    rw [stopEpisode_eq]
    exact h.of_stopEpisode h1 he rfl rfl rfl rfl rfl rfl hi.live rfl hst rfl
  | dialing he hp ht =>
    exact h.of_setEpisode he rfl rfl rfl rfl rfl rfl rfl rfl (by rw [hp]; rfl) rfl nofun
  | succeed he hp ht hst ho =>
    exact h.of_endEpisode h1 he rfl rfl rfl rfl rfl rfl (by rw [hp]; rfl) rfl hst nofun nofun
  | fail ls he hp ht hst ho =>
    exact h.of_setEpisode he rfl rfl rfl rfl rfl rfl rfl rfl (by rw [hp]; rfl) rfl nofun
  | drain he hp ht hst ho =>
    rw [stopEpisode_eq]
    exact h.of_stopEpisode h1 he rfl rfl rfl rfl rfl rfl (by rw [hp]; rfl) rfl hst rfl
  | undo he hp ht hst ho =>
    exact h.of_setEpisode he rfl rfl rfl rfl rfl rfl rfl rfl (by rw [hp]; rfl) rfl fun _ _ => hst
  | closing he hp ht =>
    exact h.of_setEpisode he rfl rfl rfl rfl rfl rfl rfl rfl (by rw [hp]; rfl) rfl
      fun _ _ => h.late he hp
  | undone ls he hp ht =>
    rw [stopEpisode_eq]
    exact h.of_stopEpisode h1 he rfl rfl rfl rfl rfl rfl (by rw [hp]; rfl) rfl (h.late he hp) rfl
  | dial hc hi hs => exact h.of_setCall hc rfl nofun rfl rfl rfl rfl rfl rfl rfl rfl
  | send hc hi hs => exact h.of_setCall hc rfl nofun rfl rfl rfl rfl rfl rfl rfl rfl
  | claim hc hr => exact h.of_setCall hc rfl nofun rfl rfl rfl rfl rfl rfl rfl rfl
  | refuse ls hc hf => exact h.of_setCall hc rfl nofun rfl rfl rfl rfl rfl rfl rfl rfl
  | messages hc => exact h.of_setCall hc rfl nofun rfl rfl rfl rfl rfl rfl rfl rfl
  | dialingCall hc ht => exact h.of_setCall hc rfl nofun rfl rfl rfl rfl rfl rfl rfl rfl
  | dialFailed ls hc ht ho => exact h.of_setCall hc rfl nofun rfl rfl rfl rfl rfl rfl rfl rfl
  | accept hc ht ho hs => exact (h.accept hc hs).of_same rfl rfl rfl rfl rfl rfl rfl
  | ensure ls hc =>
    exact (h.ensureWatch (a := .outcome (Outcome.done "Connected")) h1 hc).of_same rfl rfl rfl rfl
      rfl rfl rfl
  | sending hc ht => exact h.of_setCall hc rfl nofun rfl rfl rfl rfl rfl rfl rfl rfl
  | sent hc ht => exact h.of_setCall hc rfl nofun rfl rfl rfl rfl rfl rfl rfl rfl
  | join hc hs => exact h.join hc hs
  | joined hc ho => exact h.abortLastEpisode (h.cleared hc rfl)
  | abort hc ho hd =>
    have hs := h.cleared hc rfl
    refine (h.abortWatch hs).abortLastEpisode ?_
    obtain ⟨s, hk⟩ := abortWatch_eq T _ k
    rw [hk]
    exact hs
  | close hcl hu =>
    obtain ⟨p, hc, ha, hs, hover⟩ := h.of_closes hcl
    exact h.of_close hc rfl ha hs hover (fun _ => nofun) (.inl ⟨rfl, rfl⟩) rfl rfl rfl rfl rfl
  | skip hcl hu =>
    obtain ⟨p, hc, ha, hs, hover⟩ := h.of_closes hcl
    rw [lower_eq]
    exact h.of_close hc rfl ha hs hover (fun _ => nofun) (.inr rfl) rfl rfl rfl rfl rfl
  | closingCall hc ht =>
    exact h.of_close hc rfl rfl (h.cleared hc rfl) nofun (fun _ => nofun) (.inl ⟨rfl, rfl⟩) rfl rfl
      rfl rfl rfl
  | closed ls ls' hc ht =>
    rw [lower_eq]
    exact h.of_close hc rfl rfl (h.cleared hc rfl) nofun (fun _ => nofun) (.inr rfl) rfl rfl rfl rfl
      rfl
  | release hh hn hs => simp [h.held] at hh

theorem fresh {config : LinkConfig} {transport : State} {installed : Bool} :
    InOrder (Keeper.fresh config transport installed : Keeper State Op) := by
  refine ⟨?_, ?_, ?_, ?_, ?_, ?_, ?_, ?_, ?_, ?_, ?_⟩ <;> simp [Keeper.fresh]

theorem run {ss : List (Step State)} (hr : RunsUnder T InTurn k ss k') (h1 : OneSession k)
    (h : InOrder k) : OneSession k' ∧ InOrder k' := by
  have hmove : ∀ {a k k'}, Move T a k k' → OneSession k ∧ InOrder k → OneSession k' ∧ InOrder k' :=
    fun hm h => ⟨h.1.move hm, h.2.move h.1 hm⟩
  refine hr.keeps (fun hok hn h => next?_keeps hmove (fun _ hb => ?_) hn h) ⟨h1, h⟩
  exact ⟨h.1.befall hb, h.2.befall hok hb⟩

/-- Without a call under way, every watch that goes on is unstopped. -/
theorem slot_of_idle (h : InOrder k) (h1 : OneSession k) (hidle : k.idle = true)
    (ho : k.watchOver i = false) : k.slot = some i ∧ k.isStopped i = false := by
  unfold watchOver at ho
  rcases hw : k.watches[i]? with _ | w
  · simp [hw] at ho
  replace ho : w.phase.over = false := by simpa [hw] using ho
  rcases hst : w.stopped with _ | _
  · exact ⟨h1.unstopped hw hst, by simp [isStopped, hw, hst]⟩
  · obtain ⟨c, ending, d, hc⟩ := h.stopping hw ho hst
    have := List.all_eq_true.1 hidle _ (List.mem_of_getElem? hc)
    cases this

/-- Without a call under way, there is a session unless the state is disconnected. -/
theorem state_of_idle (h : InOrder k) (hidle : k.idle = true) :
    k.state ≠ .disconnected ↔ k.slot.isSome = true := by
  refine ⟨fun hst => ?_, fun hs => ?_⟩
  · by_contra hs
    obtain ⟨c, p, hc, hu⟩ := h.unslotted (by simpa using hs) hst
    have := List.all_eq_true.1 hidle _ (List.mem_of_getElem? hc)
    simp [CallPhase.answer?_of_unsettles hu] at this
  · obtain ⟨i, hi⟩ := Option.isSome_iff_exists.1 hs
    exact h.slotted hi

/-- A watch that could begin its next episode has begun it. -/
theorem not_replacing (h : InOrder k) (hset : k.settled T = true) (hs : k.slot = some i)
    {w : Watch Op} (hw : k.watches[i]? = some w) : w.phase.replaces = false := by
  rw [Bool.eq_false_iff]
  intro hr
  have hnone := h.replacing hs hw hr
  have hi := (List.getElem?_eq_some_iff.1 hw).1
  have hready := List.all_eq_true.1 hset (.watch i) (by simp [actors, hi])
  have hall : w.episode.all k.episodeOver = false := by
    rcases hp : w.phase with _ | _ | target | _ | _ | _ | _ <;>
      simp_all [WatchPhase.replaces, ready, watchReady]
  obtain ⟨j, -, hj⟩ := (Option.all_eq_false ..).1 hall
  obtain ⟨e, he, hlive⟩ := episodeOver_eq_false.1 hj
  exact hnone ⟨j, e, he, hlive⟩

end InOrder

/-- Once calls made one after another have answered and every actor waits, the state tells whether
there is a session, the one in the slot, and whether it has an episode. -/
theorem state_of_settled {T : Transport State Op} {config : LinkConfig} {transport : State}
    {installed : Bool} {k : Keeper State Op} {ss : List (Step State)}
    (h : RunsUnder T InTurn (fresh config transport installed) ss k) (hidle : k.idle = true)
    (hset : k.settled T = true) :
    ((∃ i, k.watchOver i = false) ↔ k.state ≠ .disconnected) ∧
      (∀ i, k.watchOver i = false → k.slot = some i ∧ k.isStopped i = false) ∧
      ((∃ j, k.episodeOver j = false) ↔ k.state = .reconnecting) ∧
      (∀ j, k.episodeOver j = false → k.Began j) ∧
      (∀ j j', k.episodeOver j = false → k.episodeOver j' = false → j = j') ∧
      (k.state ≠ .disconnected → k.endpoint.isSome = true) := by
  obtain ⟨h1, h⟩ := InOrder.run h oneSession_fresh .fresh
  have hbegan : ∀ j, k.episodeOver j = false → k.Began j := by
    intro j hj
    obtain ⟨e, he, hlive⟩ := episodeOver_eq_false.1 hj
    obtain ⟨w, hw, -, -, ho⟩ := h1.owned he hlive
    have hst := (h.slot_of_idle (i := e.watch) h1 hidle (by simp [watchOver, hw, ho])).2
    exact h1.began_of_trying ⟨e, he, hlive, hst⟩
  refine ⟨⟨fun hlive => ?_, fun hst => ?_⟩, fun i => h.slot_of_idle h1 hidle,
    ⟨fun hlive => ?_, fun hst => ?_⟩, hbegan,
    fun j j' hj hj' => (hbegan j hj).unique (hbegan j' hj'), h.endpoint⟩
  · obtain ⟨i, hi⟩ := hlive
    exact h.slotted (h.slot_of_idle h1 hidle hi).1
  · obtain ⟨i, hi⟩ := Option.isSome_iff_exists.1 ((h.state_of_idle hidle).1 hst)
    obtain ⟨w, hw, ho, -⟩ := h1.awake_iff.2 hi
    exact ⟨i, by simp [watchOver, hw, ho]⟩
  · obtain ⟨j, hj⟩ := hlive
    obtain ⟨e, he, hlive⟩ := episodeOver_eq_false.1 hj
    obtain ⟨_, w, -, hs, hw, -⟩ := hbegan j hj
    exact (h.reconnecting hs hw).2 (.inr ⟨j, e, he, hlive⟩)
  · obtain ⟨i, hi⟩ := Option.isSome_iff_exists.1 ((h.state_of_idle hidle).1 (by simp [hst]))
    obtain ⟨w, hw, -⟩ := h1.slot hi
    rcases (h.reconnecting hi hw).1 hst with hr | ⟨j, e, he, hlive⟩
    · simp [h.not_replacing hset hi hw] at hr
    · exact ⟨j, episodeOver_eq_false.2 ⟨e, he, hlive⟩⟩

theorem state_of_settled_lost : ∃ k,
    RunsUnder Rehearsal.stage InTurn (fresh {} {} true) lossSteps k ∧ k.idle = true ∧
      k.settled Rehearsal.stage = true ∧ k.state = .reconnecting ∧ k.watchOver 0 = false ∧
      k.slot = some 0 ∧ (∃ j, k.episodeOver j = false) ∧ k.endpoint.isSome := by
  obtain ⟨k, hr, hidle, hset, hst, hw⟩ : ∃ k,
      RunsUnder Rehearsal.stage InTurn (fresh {} {} true) lossSteps k ∧ k.idle = true ∧
        k.settled Rehearsal.stage = true ∧ k.state = .reconnecting ∧ k.watchOver 0 = false :=
    ⟨_, .cons rfl rfl <| .cons trivial rfl <| .cons trivial rfl <| .cons trivial rfl <|
      .cons trivial rfl <| .cons trivial rfl <| .cons trivial rfl <| .cons trivial rfl <| .nil _,
      rfl, rfl, rfl, rfl⟩
  obtain ⟨-, hslot, hepi, -, -, hend⟩ := state_of_settled hr hidle hset
  exact ⟨k, hr, hidle, hset, hst, hw, (hslot 0 hw).1, hepi.2 hst, hend (by simp [hst])⟩

end Keeper

end SessionKeeper

import SessionKeeper.Proofs.Keeper.Connects
import SessionKeeper.Proofs.Keeper.Losses

/-!
# Where an episode connects to

An episode dials the endpoint that its watch found when it announced the loss. When calls are made
one after another, that is the endpoint of the keeper for as long as the episode goes on: while a
watch waits to begin an episode, and while an episode is under way, the state is reconnecting
(`Pursues`), and only a connect call that takes the connection changes the endpoint, which it does
only when the state is not. The endpoint is the one that the last such call asked for (`Remembers`).
-/

namespace SessionKeeper

variable {State Op : Type}

/-- The endpoint that a call asked the transport for, in a history with the newest event first. -/
def askedIn (c : Nat) : List Event → Option Endpoint
  | [] => none
  | .invoked (.call n) (.connect target) :: older => if n = c then some target else askedIn c older
  | _ :: older => askedIn c older

/-- The endpoint of the last connect call that recorded its success. -/
def takenIn : List Event → Option Endpoint
  | [] => none
  | .stateSet (.call c) .connected :: older => askedIn c older
  | _ :: older => takenIn older

/-- An attempt to connect, or the record of the success of a connect call. -/
def Event.aims : Event → Bool
  | invoked _ (.connect _) | stateSet (.call _) .connected => true
  | _ => false

/-- What bears on an endpoint is a deed. -/
def Event.aimed (e : Event) : Bool := e.who?.isSome && e.aims

theorem askedIn_cons {h h' : List Event} (c : Nat) (e : Event) (ih : askedIn c h' = askedIn c h) :
    askedIn c (e :: h') = askedIn c (e :: h) := by
  cases e with
  | invoked who r => cases who <;> cases r <;> simp only [askedIn, ih]
  | _ => exact ih

theorem askedIn_filter (c : Nat) : ∀ h : List Event, askedIn c (h.filter Event.aimed) = askedIn c h
  | [] => rfl
  | e :: h => by
    rw [List.filter_cons]
    split
    · exact askedIn_cons c e (askedIn_filter c h)
    · rename_i he
      refine (askedIn_filter c h).trans ?_
      cases e with
      | invoked who r => cases who <;> cases r <;> first | rfl | exact absurd rfl he
      | _ => rfl

theorem takenIn_filter : ∀ h : List Event, takenIn (h.filter Event.aimed) = takenIn h
  | [] => rfl
  | e :: h => by
    rw [List.filter_cons]
    split
    · cases e with
      | stateSet who s =>
        cases who <;> cases s <;> first | exact takenIn_filter h | exact askedIn_filter _ h
      | _ => exact takenIn_filter h
    · rename_i he
      refine (takenIn_filter h).trans ?_
      cases e with
      | stateSet who s => cases who <;> cases s <;> first | rfl | exact absurd rfl he
      | _ => rfl

/-- A connect call that is yet to succeed or fail. -/
def CallPhase.courts : CallPhase Op → Bool
  | opened (.connect _ _) | dialing _ _ => true
  | _ => false

@[simp] theorem Turn.aims_ends (who : Actor) (t : Turn State Op) :
    (t.ends who).filter Event.aims = [] := by
  unfold ends
  split
  · rfl
  · simp [Event.aims]

namespace Keeper

variable {T : Transport State Op} {k k' : Keeper State Op} {a : Actor} {i j c : Nat}

section Alone

/-- Two watches that go on are the same one. -/
theorem InOrder.watch_unique (h : InOrder k) (h1 : OneSession k) {i' : Nat} {w w' : Watch Op}
    (hw : k.watches[i]? = some w) (ho : w.phase.over = false) (hw' : k.watches[i']? = some w')
    (ho' : w'.phase.over = false) : i = i' := by
  have hslot : ∀ {n : Nat} {v : Watch Op}, k.watches[n]? = some v → v.phase.over = false →
      v.stopped = true → k.slot = none := by
    intro n v hv hov hst
    obtain ⟨c, ending, d, hc⟩ := h.stopping hv hov hst
    exact h.cleared hc rfl
  rcases hst : w.stopped with _ | _ <;> rcases hst' : w'.stopped with _ | _
  · exact Option.some.inj ((h1.unstopped hw hst).symm.trans (h1.unstopped hw' hst'))
  · cases (h1.unstopped hw hst).symm.trans (hslot hw' ho' hst')
  · cases (h1.unstopped hw' hst').symm.trans (hslot hw ho hst)
  · obtain ⟨c, ending, d, hc⟩ := h.stopping hw ho hst
    obtain ⟨c', ending', d', hc'⟩ := h.stopping hw' ho' hst'
    obtain rfl := h.call_unique hc rfl hc' rfl
    cases hc.symm.trans hc'
    rfl

/-- Two episodes under way are the same one. -/
theorem InOrder.episode_unique (h : InOrder k) (h1 : OneSession k) {j' : Nat} {e e' : Episode Op}
    (he : k.episodes[j]? = some e) (hlive : e.phase.over = false) (he' : k.episodes[j']? = some e')
    (hlive' : e'.phase.over = false) : j = j' := by
  obtain ⟨w, hw, hj, -, ho⟩ := h1.owned he hlive
  obtain ⟨w', hw', hj', -, ho'⟩ := h1.owned he' hlive'
  rw [h.watch_unique h1 hw ho hw' ho', hw'] at hw
  cases hw
  exact Option.some.inj (hj.symm.trans hj')

/-- Nobody waits to begin an episode, and none is under way. -/
structure Calm (k : Keeper State Op) : Prop where
  watches : ∀ {i : Nat} {w : Watch Op}, k.watches[i]? = some w → w.phase.replaces = false
  episodes : ¬ k.Reconnects

/-- A call that closes the transport has had all workers end. -/
theorem InOrder.calm_of_call (h : InOrder k) (h1 : OneSession k) {p : CallPhase Op}
    (hc : k.calls[c]? = some p) (ha : p.answer? = none) (hs : k.slot = none)
    (hover : ∀ ending i d, p = .joining ending i d → k.watchOver i = true) : k.Calm := by
  have hquiet : ∀ {i : Nat} {w : Watch Op}, k.watches[i]? = some w → w.phase.over = true := by
    intro i w hw
    by_contra ho
    rw [Bool.not_eq_true] at ho
    rcases hst : w.stopped with _ | _
    · simp [h1.unstopped hw hst] at hs
    · obtain ⟨c', ending, d, hj⟩ := h.stopping hw ho hst
      obtain rfl := h.call_unique hc ha hj rfl
      have := hover ending i d (Option.some.inj (hc.symm.trans hj))
      simp [watchOver, hw, ho] at this
  refine ⟨fun {i w} hw => ?_, ?_⟩
  · have := hquiet hw
    cases hp : w.phase <;> simp_all [WatchPhase.replaces, WatchPhase.over]
  · rintro ⟨j, e, he, hlive⟩
    obtain ⟨w, hw, -, -, ho⟩ := h1.owned he hlive
    simp [hquiet hw] at ho

end Alone

section Pursuit

/-- Whoever is about to connect again has the state, and is to connect to the endpoint. -/
structure Pursues (k : Keeper State Op) : Prop where
  awaited : ∀ {i : Nat} {w : Watch Op} {target : Endpoint}, k.watches[i]? = some w →
    w.phase = .replacing target →
      k.state = .reconnecting ∧ k.endpoint = some target ∧ ¬ k.Reconnects
  pursued : ∀ {j : Nat} {e : Episode Op}, k.episodes[j]? = some e → e.phase.over = false →
    k.state = .reconnecting ∧ k.endpoint = some e.target

/-- Nobody is about to connect again who was not. -/
structure Subsides (k k' : Keeper State Op) : Prop where
  state : k'.state = k.state
  endpoint : k'.endpoint = k.endpoint
  watches : ∀ {i : Nat} {w' : Watch Op} {target : Endpoint}, k'.watches[i]? = some w' →
    w'.phase = .replacing target → ∃ w, k.watches[i]? = some w ∧ w.phase = .replacing target
  episodes : ∀ {j : Nat} {e' : Episode Op}, k'.episodes[j]? = some e' → e'.phase.over = false →
    ∃ e, k.episodes[j]? = some e ∧ e.phase.over = false ∧ e.target = e'.target

namespace Subsides

theorem of_watches (hs : k'.state = k.state) (hend : k'.endpoint = k.endpoint)
    (he : k'.episodes = k.episodes)
    (hw : ∀ {i : Nat} {w' : Watch Op} {target : Endpoint}, k'.watches[i]? = some w' →
      w'.phase = .replacing target → ∃ w, k.watches[i]? = some w ∧ w.phase = .replacing target) :
    Subsides k k' :=
  ⟨hs, hend, hw, fun he' hlive => ⟨_, he ▸ he', hlive, rfl⟩⟩

theorem of_same (hs : k'.state = k.state) (hend : k'.endpoint = k.endpoint)
    (hw : k'.watches = k.watches) (he : k'.episodes = k.episodes) : Subsides k k' :=
  .of_watches hs hend he fun hw' hp => ⟨_, hw ▸ hw', hp⟩

theorem of_setWatch {w : Watch Op} (hs : k'.state = k.state) (hend : k'.endpoint = k.endpoint)
    (he : k'.episodes = k.episodes) (hw : k'.watches = k.watches.set i w)
    (hrep : w.phase.replaces = false) : Subsides k k' := by
  refine .of_watches hs hend he fun {n v target} hv hp => ?_
  rw [hw] at hv
  rcases getElem?_set_eq_some hv with ⟨-, rfl⟩ | ⟨-, hv⟩
  · rw [hp] at hrep
    cases hrep
  · exact ⟨v, hv, hp⟩

theorem of_modifyWatch {f : Watch Op → Watch Op} (hs : k'.state = k.state)
    (hend : k'.endpoint = k.endpoint) (he : k'.episodes = k.episodes)
    (hw : k'.watches = k.watches.modify i f)
    (hf : ∀ w target, (f w).phase = .replacing target → w.phase = .replacing target) :
    Subsides k k' := by
  refine .of_watches hs hend he fun {n v target} hv hp => ?_
  rw [hw] at hv
  obtain ⟨w, hw', rfl⟩ := getElem?_modify_eq_some.1 hv
  split at hp
  · exact ⟨w, hw', hf w target hp⟩
  · exact ⟨w, hw', hp⟩

theorem of_setEpisode {e e' : Episode Op} (hs : k'.state = k.state)
    (hend : k'.endpoint = k.endpoint) (hw : k'.watches = k.watches)
    (he : k.episodes[j]? = some e) (hlive : e.phase.over = false)
    (he' : k'.episodes = k.episodes.set j e') (ht : e'.target = e.target) : Subsides k k' := by
  refine ⟨hs, hend, fun hw' hp => ⟨_, hw ▸ hw', hp⟩, fun {n x} hx hlive' => ?_⟩
  rw [he'] at hx
  rcases getElem?_set_eq_some hx with ⟨rfl, rfl⟩ | ⟨-, hx⟩
  · exact ⟨e, he, hlive, ht.symm⟩
  · exact ⟨x, hx, hlive', rfl⟩

theorem trans {k'' : Keeper State Op} (h : Subsides k k') (h' : Subsides k' k'') :
    Subsides k k'' := by
  refine ⟨h'.state.trans h.state, h'.endpoint.trans h.endpoint, fun hw hp => ?_, fun he hl => ?_⟩
  · obtain ⟨w, hw, hp⟩ := h'.watches hw hp
    exact h.watches hw hp
  · obtain ⟨e', he', hl', ht'⟩ := h'.episodes he hl
    obtain ⟨e, he, hl, ht⟩ := h.episodes he' hl'
    exact ⟨e, he, hl, ht.trans ht'⟩

theorem abortWatch (i : Nat) (k : Keeper State Op) : Subsides k (k.abortWatch T i) := by
  obtain ⟨s, hk⟩ := abortWatch_eq T i k
  rw [hk]
  refine .of_modifyWatch rfl rfl rfl rfl fun w target hp => ?_
  unfold Watch.abort at hp
  split at hp
  · exact hp
  · cases hp

theorem abortLastEpisode (i : Nat) (k : Keeper State Op) :
    Subsides k (k.abortLastEpisode T i) := by
  obtain ⟨s, hk⟩ := abortLastEpisode_eq T i k
  rw [hk]
  have hw : Subsides k
      { k with watches := k.watches.modify i fun w => { w with abortable := none } } :=
    .of_modifyWatch rfl rfl rfl rfl fun _ _ => id
  refine ⟨rfl, rfl, hw.watches, fun {j e'} he hlive => ?_⟩
  obtain ⟨e₀, he₀, ⟨rfl, -⟩ | rfl⟩ := getElem?_of_abort he
  · exact ⟨e', he₀, hlive, rfl⟩
  · simp [e₀.abort_over] at hlive

end Subsides

namespace Pursues

theorem of_calm (h : k.Calm) : Pursues k := by
  refine ⟨fun hw hp => ?_, fun he hlive => absurd ⟨_, _, he, hlive⟩ h.episodes⟩
  have := h.watches hw
  rw [hp] at this
  cases this

theorem calm (h : Pursues k) (hs : k.state ≠ .reconnecting) : k.Calm := by
  refine ⟨fun {i w} hw => ?_, ?_⟩
  · cases hp : w.phase with
    | replacing target => exact absurd (h.awaited hw hp).1 hs
    | _ => rfl
  · rintro ⟨j, e, he, hlive⟩
    exact hs (h.pursued he hlive).1

theorem of_subsides (h : Pursues k) (hs : Subsides k k') : Pursues k' := by
  refine ⟨fun hw hp => ?_, fun he hlive => ?_⟩
  · obtain ⟨w, hw, hp⟩ := hs.watches hw hp
    obtain ⟨hst, hend, hR⟩ := h.awaited hw hp
    refine ⟨hs.state.trans hst, hs.endpoint.trans hend, ?_⟩
    rintro ⟨j, e', he', hlive⟩
    obtain ⟨e, he, hl, -⟩ := hs.episodes he' hlive
    exact hR ⟨j, e, he, hl⟩
  · obtain ⟨e, he, hl, ht⟩ := hs.episodes he hlive
    obtain ⟨hst, hend⟩ := h.pursued he hl
    exact ⟨hs.state.trans hst, by rw [hs.endpoint, hend, ht]⟩

/-- When the episode that is under way ends, nobody is left to connect again. -/
theorem calm_of_end {e e' : Episode Op} (h : Pursues k) (ho : InOrder k) (h1 : OneSession k)
    (he : k.episodes[j]? = some e) (hlive : e.phase.over = false)
    (he' : k'.episodes = k.episodes.set j e') (hover : e'.phase.over = true)
    (hw : k'.watches = k.watches) : k'.Calm := by
  refine ⟨fun {i w} hw' => ?_, ?_⟩
  · rw [hw] at hw'
    cases hp : w.phase with
    | replacing target => exact absurd ⟨j, e, he, hlive⟩ (h.awaited hw' hp).2.2
    | _ => rfl
  · rintro ⟨n, x, hx, hlive'⟩
    rw [he'] at hx
    rcases getElem?_set_eq_some hx with ⟨-, rfl⟩ | ⟨hne, hx⟩
    · simp [hover] at hlive'
    · exact hne (ho.episode_unique h1 he hlive hx hlive')

theorem lose {w : Watch Op} (h : Pursues k) (ho : InOrder k) (h1 : OneSession k)
    (hw : k.watches[i]? = some w) (hst : w.stopped = false) (hs : k.state ≠ .reconnecting) :
    Pursues (((k.record (.looked i false)).lose i).setWatch i
      { w with seenUp := false, phase := .replacing (k.endpoint.getD k.config.endpoint) }) := by
  -- the state is not reconnecting, so nobody but this watch is about to connect again
  have hcalm := h.calm hs
  obtain ⟨t, ht⟩ := Option.isSome_iff_exists.1 (ho.endpoint (ho.slotted (h1.unstopped hw hst)))
  refine ⟨fun {n v target} hv hp => ⟨rfl, ?_, hcalm.episodes⟩, fun he hlive =>
    absurd ⟨_, _, he, hlive⟩ hcalm.episodes⟩
  rcases getElem?_set_eq_some hv with ⟨-, rfl⟩ | ⟨-, hv⟩
  · cases hp
    simp [ht, Keeper.lose, setWatch, log, setState, notify, record]
  · have := hcalm.watches hv
    rw [hp] at this
    cases this

theorem beginEpisode {w : Watch Op} {target : Endpoint} (h : Pursues k) (ho : InOrder k)
    (h1 : OneSession k) (hw : k.watches[i]? = some w) (hp : w.phase = .replacing target) :
    Pursues (k.beginEpisode i w target) := by
  obtain ⟨hst, hend, hR⟩ := h.awaited hw hp
  simp only [Keeper.beginEpisode, rest_eq, setWatch, record]
  refine ⟨fun {n v t} hv hpv => ?_, fun {n x} hx hlive => ?_⟩
  · -- no other watch goes on that could wait to begin one
    rcases getElem?_set_eq_some hv with ⟨-, rfl⟩ | ⟨hne, hv⟩
    · cases (congrArg WatchPhase.replaces hpv).symm.trans (Watch.replaces_nextPhase _ _)
    · exact absurd (ho.watch_unique h1 hw (by rw [hp]; rfl) hv (by rw [hpv]; rfl)) hne
  · rcases getElem?_concat_eq_some.1 hx with hx | ⟨-, rfl⟩
    · exact absurd ⟨n, x, hx, hlive⟩ hR
    · exact ⟨hst, hend⟩

theorem move (h : Pursues k) (ho : InOrder k) (h1 : OneSession k) (hm : Move T a k k') :
    Pursues k' := by
  -- the state leaves reconnecting only with the end of the episode, or when all workers have ended
  cases hm with
  | leave hw hi hst =>
    exact h.of_subsides (.of_setWatch rfl rfl rfl rfl (Watch.replaces_lastPhase _))
  | sight hw hl hst hu => exact h.of_subsides (.of_setWatch rfl rfl rfl rfl rfl)
  | pumping hw hp ht => exact h.of_subsides (.of_setWatch rfl rfl rfl rfl rfl)
  | pumped ls hw hp ht =>
    rw [rest_eq, forward_eq]
    exact h.of_subsides (.of_setWatch rfl rfl rfl rfl (Watch.replaces_nextPhase _ _))
  | ignore hw hl hst hu hn =>
    rw [rest_eq]
    exact h.of_subsides (.of_setWatch rfl rfl rfl rfl (Watch.replaces_nextPhase _ _))
  | lose hw hl hst hu hseen hs => exact h.lose ho h1 hw hst hs
  | beginEpisode hw hp _ => exact h.beginEpisode ho h1 hw hp
  | finish hw hp _ => exact h.of_subsides (.of_setWatch rfl rfl rfl rfl rfl)
  | announce he ht hst hl => exact h.of_subsides (.of_setEpisode rfl rfl rfl he ht.live rfl rfl)
  | timeOut he ht hst hl => exact .of_calm (h.calm_of_end ho h1 he ht.live rfl rfl rfl)
  | stop he hi hst =>
    rw [stopEpisode_eq]
    exact .of_calm (h.calm_of_end ho h1 he hi.live rfl rfl rfl)
  | dialing he hp ht =>
    exact h.of_subsides (.of_setEpisode rfl rfl rfl he (by rw [hp]; rfl) rfl rfl)
  | succeed he hp ht hst hout =>
    exact .of_calm (h.calm_of_end ho h1 he (by rw [hp]; rfl) rfl rfl rfl)
  | fail ls he hp ht hst hout =>
    exact h.of_subsides (.of_setEpisode rfl rfl rfl he (by rw [hp]; rfl) rfl rfl)
  | drain he hp ht hst hout =>
    rw [stopEpisode_eq]
    exact .of_calm (h.calm_of_end ho h1 he (by rw [hp]; rfl) rfl rfl rfl)
  | undo he hp ht hst hout =>
    exact h.of_subsides (.of_setEpisode rfl rfl rfl he (by rw [hp]; rfl) rfl rfl)
  | closing he hp ht =>
    exact h.of_subsides (.of_setEpisode rfl rfl rfl he (by rw [hp]; rfl) rfl rfl)
  | undone ls he hp ht =>
    rw [stopEpisode_eq]
    exact .of_calm (h.calm_of_end ho h1 he (by rw [hp]; rfl) rfl rfl rfl)
  | accept hc ht hout hs =>
    have hcalm := h.calm hs
    exact .of_calm ⟨hcalm.watches, hcalm.episodes⟩
  | ensure ls hc =>
    unfold Keeper.ensureWatch
    split
    · exact h.of_subsides (.of_same rfl rfl rfl rfl)
    · refine h.of_subsides (.of_watches rfl rfl rfl fun {n v target} hv hp => ?_)
      rcases getElem?_concat_eq_some.1 hv with hv | ⟨-, rfl⟩
      · exact ⟨v, hv, hp⟩
      · cases hp
  | join hc hs =>
    rw [raiseStop_eq]
    exact h.of_subsides (.of_modifyWatch rfl rfl rfl rfl fun _ _ => id)
  | joined hc hover => exact h.of_subsides (.abortLastEpisode _ k)
  | abort hc hover hd =>
    exact h.of_subsides ((Subsides.abortWatch _ k).trans (.abortLastEpisode _ _))
  | skip hcl hu =>
    obtain ⟨p, hc, ha, hs, hover⟩ := ho.of_closes hcl
    have hcalm := ho.calm_of_call h1 hc ha hs hover
    rw [lower_eq]
    exact .of_calm ⟨hcalm.watches, hcalm.episodes⟩
  | closed ls ls' hc ht =>
    have hcalm := ho.calm_of_call h1 hc rfl (ho.cleared hc rfl) (by simp)
    rw [lower_eq]
    exact .of_calm ⟨hcalm.watches, hcalm.episodes⟩
  | release hh hn hs => simp [ho.held] at hh
  | _ => exact h.of_subsides (.of_same rfl rfl rfl rfl)

theorem befall {s : Step State} (h : Pursues k) (hb : Befalls k s k') : Pursues k' := by
  cases hb <;> exact h.of_subsides (.of_same rfl rfl rfl rfl)

theorem fresh {config : LinkConfig} {transport : State} {installed : Bool} :
    Pursues (Keeper.fresh config transport installed : Keeper State Op) := by
  refine ⟨?_, ?_⟩ <;> simp [Keeper.fresh]

end Pursues

end Pursuit

section Memory

/-- What a move does to the endpoint and to what is read off the history about it. -/
inductive Books (a : Actor) (k k' : Keeper State Op) : Prop
  | same (hd : k'.deeds Event.aims = k.deeds Event.aims) (hend : k'.endpoint = k.endpoint)
  /-- An episode makes an attempt. -/
  | attempts {j : Nat} {e : Episode Op} (ha : a = .episode j) (he : k.episodes[j]? = some e)
      (hlive : e.phase.over = false) (hend : k'.endpoint = k.endpoint)
      (hd : k'.deeds Event.aims = k.deeds Event.aims ++ [.invoked (.episode j) (.connect e.target)])
  /-- A connect call asks the transport. -/
  | asks {c : Nat} {host : Option String} {port : Option UInt16} (ha : a = .call c)
      (hc : k.calls[c]? = some (.opened (.connect host port))) (hend : k'.endpoint = k.endpoint)
      (hd : k'.deeds Event.aims
        = k.deeds Event.aims ++ [.invoked (.call c) (.connect (k.config.requested host port))])
  | takes {c : Nat} {target : Endpoint} {op : Op} (ha : a = .call c)
      (hc : k.calls[c]? = some (.dialing target op)) (hend : k'.endpoint = some target)
      (hd : k'.deeds Event.aims = k.deeds Event.aims ++ [.stateSet (.call c) .connected])

theorem Books.move (hm : Move T a k k') : Books a k k' := by
  cases hm with
  | announce he ht hst hl =>
    exact .attempts rfl he ht.live rfl (by simp [Keeper.announce, Event.aims])
  | dial hc hi hs => exact .asks rfl hc rfl (by simp [Event.aims])
  | accept hc ht hout hs =>
    refine .takes rfl hc rfl ?_
    rw [deeds_setCall, deeds_setState]
    exact congrArg (· ++ _) ((deeds_absorb Event.aims k _ _).trans (by simp))
  | sight hw hl hst hu => exact .same (by simp [Event.aims]) rfl
  | pumped ls hw hp ht => exact .same (by simp) (by rw [rest_eq, forward_eq]; rfl)
  | ignore hw hl hst hu hn => exact .same (by simp) (by rw [rest_eq]; rfl)
  | lose hw hl hst hu hseen hs => exact .same (by simp [Keeper.lose, log_eq, Event.aims]) rfl
  | beginEpisode hw hp ho => exact .same (by simp) (by rw [Keeper.beginEpisode, rest_eq]; rfl)
  | timeOut he ht hst hl => exact .same (by simp [Keeper.timeOut, log_eq, Event.aims]) rfl
  | succeed he hp ht hst ho => exact .same (by simp [Keeper.succeed, log_eq, Event.aims]) rfl
  | stop he hi hst => exact .same (deeds_stopEpisode _ _ rfl) (by rw [stopEpisode_eq])
  | drain he hp ht hst ho =>
    exact .same ((deeds_stopEpisode _ _ rfl).trans (by simp)) (by rw [stopEpisode_eq]; rfl)
  | undone ls he hp ht =>
    exact .same ((deeds_stopEpisode _ _ rfl).trans (by simp)) (by rw [stopEpisode_eq]; rfl)
  | fail ls he hp ht hst ho => exact .same (by simp [restEpisode]) rfl
  | undo he hp ht hst ho => exact .same (by simp [Event.aims]) rfl
  | send hc hi hs => exact .same (by simp [Event.aims]) rfl
  | ensure ls hc =>
    refine .same (by simp) ?_
    unfold Keeper.ensureWatch
    split <;> rfl
  | @join _ _ _ i hc hs =>
    refine .same ?_ (by rw [raiseStop_eq]; rfl)
    rw [deeds_setCall, deeds_raiseStop]
    rfl
  | @joined _ _ _ i =>
    obtain ⟨s, hk⟩ := abortLastEpisode_eq T i k
    exact .same (by simp) (by rw [hk])
  | @abort _ _ _ i =>
    obtain ⟨s, hk⟩ := abortWatch_eq T i k
    obtain ⟨s', hk'⟩ := abortLastEpisode_eq T i (k.abortWatch T i)
    exact .same (by simp) (by rw [hk', hk])
  | close hcl hu => exact .same (by simp [Event.aims]) rfl
  | skip hcl hu =>
    refine .same ?_ (by rw [lower_eq]; rfl)
    rw [deeds_conclude, deeds_lower _ rfl]
  | closed ls ls' hc ht =>
    refine .same ?_ (by rw [lower_eq]; rfl)
    rw [deeds_conclude, deeds_say, deeds_lower _ rfl]
    simp
  | @release _ _ i =>
    obtain ⟨s, hk⟩ := abortLastEpisode_eq T i ({ k with slot := none }.raiseStop i)
    refine .same ?_ (by rw [hk, raiseStop_eq])
    rw [deeds_abortLastEpisode, deeds_raiseStop]
    rfl
  | _ => exact .same (by simp) rfl

/-- How a connect call that is yet to succeed or fail came to where it waits. -/
inductive Courts (c : Nat) (k k' : Keeper State Op) (p : CallPhase Op) : Prop
  | stays (hc : k.calls[c]? = some p)
  | goes {target : Endpoint} {op op' : Op} (hp : p = .dialing target op')
      (hc : k.calls[c]? = some (.dialing target op))
  | asks {host : Option String} {port : Option UInt16} {op : Op}
      (hp : p = .dialing (k.config.requested host port) op)
      (hc : k.calls[c]? = some (.opened (.connect host port)))
      (hd : k'.deeds Event.aims
        = k.deeds Event.aims ++ [.invoked (.call c) (.connect (k.config.requested host port))])

theorem Courts.move {p : CallPhase Op} (hm : Move T a k k') (hc : k'.calls[c]? = some p)
    (hp : p.courts = true) : Courts c k k' p := by
  by_cases ha : a = .call c
  case neg => exact .stays (calls_of_others hm ha ▸ hc)
  subst ha
  have hset : ∀ {l : List (CallPhase Op)} {q : CallPhase Op}, (l.set c q)[c]? = some p → q = p := by
    intro l q h
    rcases getElem?_set_eq_some h with ⟨-, h⟩ | ⟨h, -⟩
    · exact h
    · exact absurd rfl h
  cases hm with
  | say ls => exact .stays hc
  | dialingCall hc' ht => exact .goes (hset hc).symm hc'
  | dial hc' hi hs => exact .asks (hset hc).symm hc' (by simp [Event.aims])
  | join hc' hs =>
    rw [raiseStop_eq] at hc
    obtain rfl := hset hc
    cases hp
  | @joined _ _ _ i =>
    obtain ⟨s, hk⟩ := abortLastEpisode_eq T i k
    exact .stays (by rwa [hk] at hc)
  | @abort _ _ _ i =>
    obtain ⟨s, hk⟩ := abortWatch_eq T i k
    obtain ⟨s', hk'⟩ := abortLastEpisode_eq T i (k.abortWatch T i)
    exact .stays (by rwa [hk', hk] at hc)
  | @release _ _ i =>
    obtain ⟨s, hk⟩ := abortLastEpisode_eq T i ({ k with slot := none }.raiseStop i)
    exact .stays (by rwa [hk, raiseStop_eq] at hc)
  | _ =>
    obtain rfl := hset hc
    cases hp

section Histories

variable {es : List Event}

theorem history_of_append (h : k'.deeds Event.aims = k.deeds Event.aims ++ es) :
    takenIn k'.history = takenIn (es.reverse ++ k.history) ∧
      ∀ c, askedIn c k'.history = askedIn c (es.reverse ++ k.history) := by
  have hfilter : k'.history.filter Event.aimed
      = es.reverse ++ k.history.filter Event.aimed := by
    have := congrArg List.reverse h
    rwa [List.reverse_append, deeds, deeds, List.reverse_reverse, List.reverse_reverse] at this
  refine ⟨?_, fun c => ?_⟩
  · rw [← takenIn_filter, hfilter, append_filter takenIn_filter]
  · rw [← askedIn_filter, hfilter, append_filter (askedIn_filter c)]

/-- What a move adds to the attempts to connect is what an episode under way asks for, or a call
that has yet to. -/
theorem invoked_of_move {b : Actor} {target : Endpoint} (hm : Move T a k k')
    (hist : k'.history = es ++ k.history) (hin : .invoked b (.connect target) ∈ es) :
    (∃ j e, a = .episode j ∧ b = .episode j ∧ k.episodes[j]? = some e ∧ e.phase.over = false ∧
        e.target = target) ∨
      ∃ c host port, b = .call c ∧ k.calls[c]? = some (.opened (.connect host port)) ∧
        k.config.requested host port = target := by
  have hnew : ∀ {new}, k'.deeds Event.aims = k.deeds Event.aims ++ new →
      .invoked b (.connect target) ∈ new := by
    intro new hd
    have hes : k'.deeds Event.aims = k.deeds Event.aims ++ (es.filter Event.aimed).reverse := by
      rw [deeds, hist, List.filter_append, List.reverse_append]
      rfl
    rw [← List.append_cancel_left (hes.symm.trans hd), List.mem_reverse]
    exact List.mem_filter.2 ⟨hin, rfl⟩
  cases Books.move hm with
  | same hd hend => cases hnew (hd.trans (List.append_nil _).symm)
  | attempts ha he hlive hend hd =>
    obtain ⟨rfl, rfl⟩ : b = _ ∧ target = _ := by simpa using hnew hd
    exact .inl ⟨_, _, ha, rfl, he, hlive, rfl⟩
  | asks ha hc hend hd =>
    obtain ⟨rfl, rfl⟩ : b = _ ∧ target = _ := by simpa using hnew hd
    exact .inr ⟨_, _, _, rfl, hc, rfl⟩
  | takes ha hc hend hd => simpa using hnew hd

/-- A call that dials for one endpoint does not ask for another. -/
theorem askedIn_of_dialing {target : Endpoint} {op : Op} (hm : Move T a k k')
    (hc : k.calls[c]? = some (.dialing target op)) :
    askedIn c k'.history = askedIn c k.history := by
  cases Books.move hm with
  | same hd hend => exact (history_of_append (hd.trans (List.append_nil _).symm)).2 c
  | attempts ha he hlive hend hd => exact (history_of_append hd).2 c
  | takes ha hc' hend hd => exact (history_of_append hd).2 c
  | asks ha hc' hend hd =>
    refine ((history_of_append hd).2 c).trans (if_neg ?_)
    rintro rfl
    cases hc.symm.trans hc'

end Histories

/-- The history tells the endpoint, which endpoint a call asked for and why, and which endpoints
the episodes tried. -/
structure Remembers (k : Keeper State Op) : Prop where
  endpoint : k.endpoint = takenIn k.history
  opened : ∀ {c : Nat} {host : Option String} {port : Option UInt16},
    k.calls[c]? = some (.opened (.connect host port)) → .called c (.connect host port) ∈ k.history
  dialing : ∀ {c : Nat} {target : Endpoint} {op : Op}, k.calls[c]? = some (.dialing target op) →
    askedIn c k.history = some target
  asked : ∀ {c : Nat} {target : Endpoint}, .invoked (.call c) (.connect target) ∈ k.history →
    ∃ host port, .called c (.connect host port) ∈ k.history ∧ k.config.requested host port = target
  tried : ∀ {j : Nat} {target : Endpoint}, .invoked (.episode j) (.connect target) ∈ k.history →
    ∃ e, k.episodes[j]? = some e ∧ e.target = target

namespace Remembers

theorem move (h : Remembers k) (hm : Move T a k k') : Remembers k' := by
  have hl := Later.move hm
  obtain ⟨es, hp⟩ := Passes.move hm
  have hist := hp.history
  have hmem : ∀ {e}, e ∈ k.history → e ∈ k'.history :=
    fun he => hist ▸ List.mem_append_right _ he
  refine ⟨?_, fun {c host port} hc => ?_, fun {c target op} hc => ?_, fun {c target} hin => ?_,
    fun {j target} hin => ?_⟩
  · cases Books.move hm with
    | same hd hend =>
      rw [hend, h.endpoint, (history_of_append (hd.trans (List.append_nil _).symm)).1]
      rfl
    | attempts ha he hlive hend hd =>
      rw [hend, h.endpoint, (history_of_append hd).1]
      rfl
    | asks ha hc hend hd =>
      rw [hend, h.endpoint, (history_of_append hd).1]
      rfl
    | takes ha hc hend hd =>
      rw [hend, (history_of_append hd).1]
      exact (h.dialing hc).symm
  · cases Courts.move hm hc rfl with
    | stays hc => exact hmem (h.opened hc)
    | goes hp => cases hp
    | asks hp => cases hp
  · cases Courts.move hm hc rfl with
    | stays hc => rw [askedIn_of_dialing hm hc, h.dialing hc]
    | goes hp hc =>
      cases hp
      rw [askedIn_of_dialing hm hc, h.dialing hc]
    | asks hp hc hd =>
      cases hp
      exact ((history_of_append hd).2 _).trans (if_pos rfl)
  · have hasked : ∃ host port, .called c (.connect host port) ∈ k.history ∧
        k.config.requested host port = target := by
      rw [hist, List.mem_append] at hin
      rcases hin with hin | hin
      · rcases invoked_of_move hm hist hin with ⟨j, e, -, hb, -⟩ | ⟨n, host, port, hb, hc, ht⟩
        · cases hb
        · cases hb
          exact ⟨host, port, h.opened hc, ht⟩
      · exact h.asked hin
    obtain ⟨host, port, hc, ht⟩ := hasked
    exact ⟨host, port, hmem hc, by rwa [hl.config]⟩
  · have htried : ∃ e, k.episodes[j]? = some e ∧ e.target = target := by
      rw [hist, List.mem_append] at hin
      rcases hin with hin | hin
      · rcases invoked_of_move hm hist hin with ⟨n, e, -, hb, he, -, ht⟩ | ⟨n, host, port, hb, -⟩
        · cases hb
          exact ⟨e, he, ht⟩
        · cases hb
      · exact h.tried hin
    obtain ⟨e, he, ht⟩ := htried
    obtain ⟨e', he', hage⟩ := hl.ages he
    exact ⟨e', he', hage.target.trans ht⟩

theorem befall {s : Step State} (h : Remembers k) (hb : Befalls k s k') : Remembers k' := by
  cases hb with
  | call r =>
    have hmem : ∀ {e}, e ∈ k.history → e ∈ (k.call r).history := List.mem_cons_of_mem _
    refine ⟨h.endpoint, fun hc => ?_, fun hc => ?_, fun hin => ?_, fun hin => ?_⟩
    · rcases getElem?_concat_eq_some.1 hc with hc | ⟨rfl, hr⟩
      · exact hmem (h.opened hc)
      · cases hr
        exact List.mem_cons_self
    · rcases getElem?_concat_eq_some.1 hc with hc | ⟨-, hc⟩
      · exact h.dialing hc
      · cases hc
    · rcases List.mem_cons.1 hin with hin | hin
      · cases hin
      · obtain ⟨host, port, hc, ht⟩ := h.asked hin
        exact ⟨host, port, hmem hc, ht⟩
    · rcases List.mem_cons.1 hin with hin | hin
      · cases hin
      · exact h.tried hin
  | _ => exact ⟨h.endpoint, h.opened, h.dialing, h.asked, h.tried⟩

theorem fresh {config : LinkConfig} {transport : State} {installed : Bool} :
    Remembers (Keeper.fresh config transport installed : Keeper State Op) := by
  refine ⟨rfl, ?_, ?_, ?_, ?_⟩ <;> simp [Keeper.fresh]

end Remembers

end Memory

section Run

open Relation (ReflTransGen)

variable {s : Step State} {ss : List (Step State)} {p : CallPhase Op}

/-- What holds of sessions, of whoever is about to connect again, and of the history, when calls
are made one after another. -/
structure Bearings (k : Keeper State Op) : Prop where
  sessions : OneSession k
  order : InOrder k
  pursues : Pursues k
  remembers : Remembers k

theorem Bearings.fresh {config : LinkConfig} {transport : State} {installed : Bool} :
    Bearings (Keeper.fresh config transport installed : Keeper State Op) :=
  ⟨oneSession_fresh, .fresh, .fresh, .fresh⟩

theorem Bearings.move (h : Bearings k) (hm : Move T a k k') : Bearings k' :=
  ⟨h.sessions.move hm, h.order.move h.sessions hm, h.pursues.move h.order h.sessions hm,
    h.remembers.move hm⟩

theorem Bearings.befall (h : Bearings k) (hok : InTurn k s) (hb : Befalls k s k') : Bearings k' :=
  ⟨h.sessions.befall hb, h.order.befall hok hb, h.pursues.befall hb, h.remembers.befall hb⟩

theorem Bearings.next (h : Bearings k) (hok : InTurn k s) (hn : k.next? T s = some k') :
    Bearings k' :=
  next?_keeps (fun hm h => h.move hm) (fun _ hb => h.befall hok hb) hn h

theorem Bearings.run (hr : RunsUnder T InTurn k ss k') (h : Bearings k) : Bearings k' :=
  hr.keeps (fun hok hn h => h.next hok hn) h

/-- A call that is yet to succeed or fail was so before. -/
theorem courts_of_moves (hm : ReflTransGen (Move T a) k k') (hc : k'.calls[c]? = some p)
    (hp : p.courts = true) : ∃ q, k.calls[c]? = some q ∧ q.courts = true := by
  induction hm generalizing p with
  | refl => exact ⟨p, hc, hp⟩
  | tail _ hm ih =>
    cases Courts.move hm hc hp with
    | stays hc => exact ih hc hp
    | goes _ hc => exact ih hc rfl
    | asks _ hc => exact ih hc rfl

theorem courts_of_next (hn : k.next? T s = some k') (hs : ∀ r, s ≠ .call r)
    (hc : k'.calls[c]? = some p) (hp : p.courts = true) :
    ∃ q, k.calls[c]? = some q ∧ q.courts = true := by
  rcases next?_cases hn with ⟨a, rfl, hr, rfl⟩ | ⟨k₁, hb, hk⟩
  · exact courts_of_moves (resume_moves hr) hc hp
  · have hcalls : k₁.calls = k.calls := by
      cases hb with
      | call r => exact absurd rfl (hs r)
      | _ => rfl
    rcases hk with rfl | rfl
    · exact ⟨p, hcalls ▸ hc, hp⟩
    · obtain ⟨q, hq, hqp⟩ := courts_of_moves (release_moves (.call 0) k₁) hc hp
      exact ⟨q, hcalls ▸ hq, hqp⟩

/-- A connect call that is yet to succeed or fail waits for the transport, or to ask it. -/
def Courted (k : Keeper State Op) : Prop :=
  ∀ (c : Nat) (p : CallPhase Op), k.calls[c]? = some p → p.courts = true →
    ∃ target, Waits c target k

theorem Courted.next (h : Courted k)
    (hun : ∀ c, k.calls.length ≤ c → k.deeds (Event.by (.call c)) = [])
    (hn : k.next? T s = some k') : Courted k' := by
  intro c p hc hp
  by_cases hs : ∃ r, s = .call r
  · obtain ⟨r, rfl⟩ := hs
    obtain ⟨-, rfl⟩ := held_of_call hn
    rcases getElem?_concat_eq_some.1 hc with hold | ⟨rfl, rfl⟩
    · obtain ⟨target, hw⟩ := h c p hold hp
      exact ⟨target, hw.others hn (by simp)⟩
    · cases r with
      | connect host port =>
        exact ⟨_, .opened hc rfl ((deeds_of_befalls _ (.call _)).trans (hun _ (Nat.le_refl _)))⟩
      | _ => cases hp
  obtain ⟨q, hq, hqp⟩ := courts_of_next hn (by simpa using hs) hc hp
  obtain ⟨target, hw⟩ := h c q hq hqp
  by_cases hself : s = .resume (.call c)
  · subst hself
    obtain ⟨-, rfl⟩ := ready_of_resume hn
    cases hw.resume (T := T) with
    | waits hw hu => exact ⟨target, hw⟩
    | refused f hc' hu =>
      cases hc.symm.trans hc'
      cases hp
    | taken hc' ht =>
      cases hc.symm.trans hc'
      cases hp
  · exact ⟨target, hw.others hn hself⟩

theorem Courted.run {config : LinkConfig} {transport : State} {installed : Bool}
    (hr : Runs T (fresh config transport installed) ss k) : Courted k := by
  refine (hr.under.keeps (P := fun k => Courted k ∧
    ∀ c, k.calls.length ≤ c → k.deeds (Event.by (.call c)) = []) (fun _ hn h => ?_)
    ⟨fun c p hc => ?_, fun _ _ => rfl⟩).1
  · exact ⟨h.1.next h.2 hn, deeds_of_unmade (.cons hn (.nil _)) h.2⟩
  · simp [Keeper.fresh] at hc

/-- Who is no connect call, or one that has succeeded or failed, leaves the endpoint as it is. -/
theorem endpoint_of_moves (hm : ReflTransGen (Move T a) k k')
    (ha : ∀ c p, a = .call c → k.calls[c]? = some p → p.courts = false) :
    k'.endpoint = k.endpoint := by
  induction hm with
  | refl => rfl
  | tail hmoves hm ih =>
    refine Eq.trans ?_ ih
    cases Books.move hm with
    | same _ hend => exact hend
    | attempts _ _ _ hend => exact hend
    | asks _ _ hend => exact hend
    | takes hself hc =>
      obtain ⟨q, hq, hqp⟩ := courts_of_moves hmoves hc rfl
      simp [ha _ q hself hq] at hqp

theorem endpoint_of_next (hw : Courted k) (hn : k.next? T s = some k') :
    k'.endpoint = k.endpoint ∨ ∃ c target, s = .resume (.call c) ∧ Takes T c target k k' ∧
      k'.calls[c]? = some (.recorded target) := by
  rcases next?_cases hn with ⟨a, rfl, hr, rfl⟩ | ⟨k₁, hb, hk⟩
  · by_cases hcourt : ∃ c p, a = .call c ∧ k.calls[c]? = some p ∧ p.courts = true
    · obtain ⟨c, p, rfl, hc, hp⟩ := hcourt
      obtain ⟨target, hwait⟩ := hw c p hc hp
      cases hwait.resume (T := T) with
      | waits _ hu => exact .inl hu.endpoint
      | refused f _ hu => exact .inl hu.endpoint
      | taken hc' ht => exact .inr ⟨c, target, rfl, ht, hc'⟩
    · refine .inl (endpoint_of_moves (resume_moves hr) fun c p hself hc => ?_)
      rw [← Bool.not_eq_true]
      exact fun hp => hcourt ⟨c, p, hself, hc, hp⟩
  · have hend : k₁.endpoint = k.endpoint := by cases hb <;> rfl
    rcases hk with rfl | rfl
    · exact .inl hend
    · exact .inl ((Untouched.refl k₁).release.endpoint.trans hend)

/-- An episode asks for the endpoint of the keeper. -/
theorem attempt_of_moves (h : Bearings k) (hm : ReflTransGen (Move T a) k k') :
    ∃ es, k'.history = es ++ k.history ∧ ∀ {j : Nat} {target : Endpoint},
      .invoked (.episode j) (.connect target) ∈ es →
        k.endpoint = some target ∧ k'.endpoint = some target := by
  have hend : (∃ j, a = .episode j) → ∀ {k'}, ReflTransGen (Move T a) k k' →
      k'.endpoint = k.endpoint := by
    rintro ⟨j, rfl⟩ k' hm
    exact endpoint_of_moves hm (by simp)
  suffices hall : Bearings k' ∧ ∃ es, k'.history = es ++ k.history ∧
      ∀ {j : Nat} {target : Endpoint}, .invoked (.episode j) (.connect target) ∈ es →
        (∃ j, a = .episode j) ∧ k.endpoint = some target by
    obtain ⟨-, es, hes, hnew⟩ := hall
    refine ⟨es, hes, fun hin => ?_⟩
    obtain ⟨ha, ht⟩ := hnew hin
    exact ⟨ht, (hend ha hm).trans ht⟩
  induction hm with
  | refl => exact ⟨h, [], rfl, by simp⟩
  | @tail k₁ k₂ hmoves hm' ih =>
    obtain ⟨hbear, es, hes, hold⟩ := ih
    obtain ⟨es', hp⟩ := Passes.move hm'
    refine ⟨hbear.move hm', es' ++ es, ?_, fun {j target} hin => ?_⟩
    · rw [hp.history, hes, List.append_assoc]
    · rcases List.mem_append.1 hin with hin | hin
      · rcases invoked_of_move hm' hp.history hin with
          ⟨n, e, ha, -, he, hlive, rfl⟩ | ⟨n, host, port, hb, -⟩
        · exact ⟨⟨n, ha⟩, (hend ⟨n, ha⟩ hmoves).symm.trans (hbear.pursues.pursued he hlive).2⟩
        · cases hb
      · exact hold hin

theorem attempt_of_next (h : Bearings k) (hok : InTurn k s) (hn : k.next? T s = some k') :
    ∃ es, k'.history = es ++ k.history ∧ ∀ {j : Nat} {target : Endpoint},
      .invoked (.episode j) (.connect target) ∈ es →
        k.endpoint = some target ∧ k'.endpoint = some target := by
  cases s with
  | resume a =>
    obtain ⟨hr, rfl⟩ := ready_of_resume hn
    exact attempt_of_moves h (resume_moves hr)
  | call r =>
    obtain ⟨-, rfl⟩ := held_of_call hn
    exact ⟨[.called k.calls.length r], rfl, by simp⟩
  | drop => exact hok.elim
  | _ =>
    cases hn
    exact ⟨[], rfl, by simp⟩

end Run

/-- Calls are made one after another. The endpoint is the one that the last connect call to record
its success was made for, if there was any. Only the step at which a connect call takes the
connection changes it, and that call can answer with nothing but success. All attempts of an episode
ask for one endpoint, which is that of the keeper whenever one is made. -/
theorem endpoint_of_run {config : LinkConfig} {transport : State} {installed : Bool}
    {ss : List (Step State)} (h : RunsUnder T InTurn (fresh config transport installed) ss k) :
    k.endpoint = takenIn k.history ∧
    (∀ c target, .invoked (.call c) (.connect target) ∈ k.history →
      ∃ host port, .called c (.connect host port) ∈ k.history ∧
        config.requested host port = target) ∧
    (∀ j target target', .invoked (.episode j) (.connect target) ∈ k.history →
      .invoked (.episode j) (.connect target') ∈ k.history → target = target') ∧
    ∀ s k', InTurn k s → k.next? T s = some k' →
      (k'.endpoint = k.endpoint ∨ ∃ c target, s = .resume (.call c) ∧ Takes T c target k k' ∧
        ∀ ss' k'', Runs T k' ss' k'' → Took c target k'') ∧
      ∀ es j target, k'.history = es ++ k.history →
        .invoked (.episode j) (.connect target) ∈ es →
          k.endpoint = some target ∧ k'.endpoint = some target := by
  have hbear : Bearings k := .run h .fresh
  have hmem := hbear.remembers
  refine ⟨hmem.endpoint, fun c target hin => ?_, fun j target target' hin hin' => ?_,
    fun s k' hok hn => ⟨?_, fun es j target hes hin => ?_⟩⟩
  · have hcfg : k.config = config := (Later.run h.runs).config
    exact hcfg ▸ hmem.asked hin
  · obtain ⟨e, he, rfl⟩ := hmem.tried hin
    obtain ⟨e', he', rfl⟩ := hmem.tried hin'
    cases he.symm.trans he'
    rfl
  · refine (endpoint_of_next (Courted.run h.runs) hn).imp id ?_
    rintro ⟨c, target, hs, ht, hc⟩
    exact ⟨c, target, hs, ht, fun ss' k'' hr => Took.run (.inl hc) hr⟩
  · obtain ⟨es', hes', hnew⟩ := attempt_of_next hbear hok hn
    rw [List.append_cancel_right (hes.symm.trans hes')] at hin
    exact hnew hin

/-- While a call to connect to another address waits for the transport, the link goes down. -/
def elsewhereSteps : List (Step Rehearsal.Stage) :=
  connectingSteps ++ [.disturb { up := true, connectDelay := 50 },
    .call (.connect (some "10.0.0.2") none), .resume (.call 1), .disturb { connectDelay := 50 },
    .pass 10, .resume (.watch 0)]

theorem endpoint_of_run_elsewhere : ∃ k k' es op,
    RunsUnder Rehearsal.stage InTurn (fresh {} {} true) elsewhereSteps k ∧
    k.next? Rehearsal.stage (.resume (.episode 0)) = some k' ∧
    k.calls[1]? = some (.dialing ⟨"10.0.0.2", 8080⟩ op) ∧ k'.history = es ++ k.history ∧
    .invoked (.episode 0) (.connect ({} : LinkConfig).endpoint) ∈ es ∧
    k.endpoint = takenIn k.history ∧ k.endpoint = some ({} : LinkConfig).endpoint := by
  obtain ⟨k, k', es, op, hr, hn, hc, hes, hin⟩ : ∃ k k' es op,
      RunsUnder Rehearsal.stage InTurn (fresh {} {} true) elsewhereSteps k ∧
      k.next? Rehearsal.stage (.resume (.episode 0)) = some k' ∧
      k.calls[1]? = some (.dialing ⟨"10.0.0.2", 8080⟩ op) ∧ k'.history = es ++ k.history ∧
      .invoked (.episode 0) (.connect ({} : LinkConfig).endpoint) ∈ es :=
    ⟨_, _, [.invoked (.episode 0) (.connect ({} : LinkConfig).endpoint), _, _, _], _,
      .cons rfl rfl <| .cons trivial rfl <| .cons trivial rfl <| .cons trivial rfl <|
      .cons trivial rfl <| .cons rfl rfl <| .cons trivial rfl <| .cons trivial rfl <|
      .cons trivial rfl <| .cons trivial rfl <| .nil _, rfl, rfl, rfl, List.mem_cons_self⟩
  obtain ⟨htaken, -, -, hstep⟩ := endpoint_of_run hr
  exact ⟨k, k', es, op, hr, hn, hc, hes, hin, htaken,
    ((hstep (.resume (.episode 0)) k' trivial hn).2 es 0 _ hes hin).1⟩

end Keeper

end SessionKeeper

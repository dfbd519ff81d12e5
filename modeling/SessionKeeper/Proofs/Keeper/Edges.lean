import SessionKeeper.Proofs.Keeper.Messages
import SessionKeeper.Proofs.Keeper.Timeline

/-!
# What a loss follows

A watch that has seen the link up keeps that in mind until it announces a loss, and announces none
while an episode has the state. So the look before a loss need not have found the link up: since it
did, the watch may have found it down any number of times, each time with the state reconnecting
(`Sighted`, `sighted_of_loss`). When an episode then fails, the watch announces the next loss at
once (`loss_after_failure`).
-/

namespace SessionKeeper

variable {State Op : Type}

/-- The state that a history, newest event first, ends with. -/
def stateIn : List Event → LinkState
  | [] => .disconnected
  | .stateSet _ s :: _ => s
  | _ :: h => stateIn h

/-- A look of a watch, or a notice that it sends. -/
def Event.glances (i : Nat) : Event → Bool
  | looked j _ | noticed (.watch j) _ => j == i
  | _ => false

/-- The newest look of a watch found the link up, or found it down while the state was
reconnecting, as did those before, back to one that found it up. -/
inductive Sighted (i : Nat) : List Event → Prop
  | up (h : List Event) : Sighted i (.looked i true :: h)
  | down {h : List Event} : Sighted i h → stateIn h = .reconnecting →
      Sighted i (.looked i false :: h)
  | later {h : List Event} {e : Event} : Sighted i h → e.glances i = false → Sighted i (e :: h)

/-- A loss is announced at a look that finds the link down, when it has been sighted and the state
is not reconnecting. -/
def Announced (i : Nat) (h : List Event) : Prop :=
  ∃ r rest, h = .stateSet (.watch i) .reconnecting :: .logged r :: .looked i false :: rest ∧
    stateIn rest ≠ .reconnecting ∧ Sighted i rest

theorem Sighted.append {i : Nat} {h : List Event} (hs : Sighted i h) (es : List Event)
    (he : ∀ e ∈ es, e.glances i = false) : Sighted i (es ++ h) := by
  induction es with
  | nil => exact hs
  | cons e es ih => exact .later (ih fun e' h => he e' (by simp [h])) (he e (by simp))

/-- What is sighted was up since the last notice. -/
theorem Sighted.up_mem {i : Nat} {mid older : List Event} {n : Notice}
    (h : Sighted i (mid ++ .noticed (.watch i) n :: older)) : .looked i true ∈ mid := by
  generalize hl : mid ++ .noticed (.watch i) n :: older = l at h
  induction h generalizing mid with
  | up h =>
    cases mid with
    | nil => cases hl
    | cons e mid =>
      obtain ⟨rfl, -⟩ := List.cons.inj hl
      exact List.mem_cons_self
  | down _ _ ih =>
    cases mid with
    | nil => cases hl
    | cons e mid => exact List.mem_cons_of_mem _ (ih (List.cons.inj hl).2)
  | later _ he ih =>
    cases mid with
    | nil =>
      obtain ⟨rfl, -⟩ := List.cons.inj hl
      simp [Event.glances] at he
    | cons e mid => exact List.mem_cons_of_mem _ (ih (List.cons.inj hl).2)

/-- A look, a notice of a watch, or a change of the state. -/
def Event.tells : Event → Bool
  | looked _ _ | noticed (.watch _) _ | stateSet _ _ => true
  | _ => false

theorem Event.glances_of_tells {e : Event} (h : e.tells = false) (i : Nat) :
    e.glances i = false := by
  unfold tells at h
  unfold glances
  split at h <;> simp_all

theorem stateIn_append {es : List Event} (he : ∀ e ∈ es, e.tells = false) (h : List Event) :
    stateIn (es ++ h) = stateIn h := by
  induction es with
  | nil => rfl
  | cons e es ih =>
    rw [List.cons_append, ← ih fun e' h => he e' (by simp [h])]
    have hplain := he e (by simp)
    cases e <;> first | rfl | cases hplain

namespace Keeper

variable {T : Transport State Op} {k k' : Keeper State Op} {i : Nat} {a : Actor}

/-- The history tells the state, what the watches keep in mind, and how losses came to be
announced. -/
structure Recalls (k : Keeper State Op) : Prop where
  state : k.state = stateIn k.history
  seen : ∀ {i : Nat} {w : Watch Op}, k.watches[i]? = some w → w.seenUp = true →
    Sighted i k.history
  losses : ∀ {newer older : List Event} {i : Nat} {n : Notice},
    k.history = newer ++ .noticed (.watch i) n :: older → Announced i older

/-- The watches keep in mind what they did. -/
def Minds (k k' : Keeper State Op) : Prop :=
  ∀ (i : Nat) (w' : Watch Op), k'.watches[i]? = some w' → w'.seenUp = true →
    ∃ w, k.watches[i]? = some w ∧ w.seenUp = true

theorem Minds.of_same (hw : k'.watches = k.watches) : Minds k k' := by
  intro i w' hw' hs
  exact ⟨w', hw ▸ hw', hs⟩

theorem Minds.of_set {w w' : Watch Op} (hw : k.watches[i]? = some w)
    (hw' : k'.watches = k.watches.set i w') (hs : w'.seenUp = w.seenUp) : Minds k k' := by
  intro n v hv hvs
  rw [hw'] at hv
  rcases getElem?_set_eq_some hv with ⟨rfl, rfl⟩ | ⟨-, hv⟩
  · exact ⟨w, hw, hs.symm.trans hvs⟩
  · exact ⟨v, hv, hvs⟩

theorem Minds.of_modify {f : Watch Op → Watch Op} (hw' : k'.watches = k.watches.modify i f)
    (hf : ∀ w, (f w).seenUp = w.seenUp) : Minds k k' := by
  intro n v hv hvs
  rw [hw'] at hv
  obtain ⟨w, hw, rfl⟩ := getElem?_modify_eq_some.1 hv
  refine ⟨w, hw, ?_⟩
  split at hvs
  · exact (hf w).symm.trans hvs
  · exact hvs

theorem Minds.of_concat (hw' : k'.watches = k.watches ++ [({} : Watch Op)]) : Minds k k' := by
  intro n v hv hvs
  rw [hw'] at hv
  rcases getElem?_concat_eq_some.1 hv with hv | ⟨-, rfl⟩
  · exact ⟨v, hv, hvs⟩
  · cases hvs

theorem cut_of_append (es : List Event) {h newer older : List Event} {n : Notice}
    (he : ∀ e ∈ es, e.glances i = false ∨ ∃ j b, e = .looked j b)
    (hcut : es ++ h = newer ++ .noticed (.watch i) n :: older) :
    ∃ newer', h = newer' ++ .noticed (.watch i) n :: older := by
  rcases append_eq_append_cons hcut with ⟨newer', -, hk⟩ | ⟨es', rfl, -⟩
  · exact ⟨newer', hk⟩
  · rcases he (.noticed (.watch i) n) (by simp) with h | ⟨j, b, h⟩
    · simp [Event.glances] at h
    · cases h

namespace Recalls

/-- What is added to the history is no look and no notice of a watch. -/
theorem of_append (h : Recalls k) (es : List Event) (hh : k'.history = es ++ k.history)
    (hs : k'.state = stateIn k'.history) (hw : Minds k k')
    (he : ∀ e ∈ es, ∀ i, e.glances i = false) : Recalls k' := by
  refine ⟨hs, fun hi hseen => ?_, fun {newer older i n} hcut => ?_⟩
  · obtain ⟨w, hi, hseen⟩ := hw _ _ hi hseen
    rw [hh]
    exact (h.seen hi hseen).append es fun e he' => he e he' _
  · rw [hh] at hcut
    obtain ⟨newer', hcut'⟩ := cut_of_append es (fun e he' => .inl (he e he' i)) hcut
    exact h.losses hcut'

theorem of_plain (h : Recalls k) (es : List Event) (hh : k'.history = es ++ k.history)
    (hs : k'.state = k.state) (hw : Minds k k') (he : ∀ e ∈ es, e.tells = false) :
    Recalls k' := by
  refine h.of_append es hh ?_ hw fun e he' => Event.glances_of_tells (he e he')
  rw [hs, hh, stateIn_append he, h.state]

theorem of_minds (h : Recalls k) (hh : k'.history = k.history) (hs : k'.state = k.state)
    (hw : Minds k k') : Recalls k' :=
  h.of_plain [] hh hs hw (by simp)

theorem of_same (h : Recalls k) (hh : k'.history = k.history) (hs : k'.state = k.state)
    (hw : k'.watches = k.watches) : Recalls k' :=
  h.of_minds hh hs (.of_same hw)

theorem record (h : Recalls k) {e : Event} (he : e.tells = false) : Recalls (k.record e) :=
  h.of_plain [e] rfl rfl (.of_same rfl) (by simpa using he)

theorem say (h : Recalls k) (ls : List LogRecord) : Recalls (k.say ls) :=
  h.of_plain _ rfl rfl (.of_same rfl) (by simp [Event.tells])

theorem absorb (h : Recalls k) (who : Actor) (t : Turn State Op) : Recalls (k.absorb who t) := by
  refine h.of_plain (t.events who) rfl rfl (.of_same rfl) fun e he => ?_
  simp only [Turn.events, List.mem_append, List.mem_reverse, List.mem_map] at he
  rcases he with (he | ⟨r, -, rfl⟩) | he
  · split at he
    · cases he
    · obtain rfl := List.mem_singleton.1 he
      rfl
  · rfl
  · split at he
    · cases he
    · obtain rfl := List.mem_singleton.1 he
      rfl

theorem setState (h : Recalls k) (who : Actor) (s : LinkState) : Recalls (k.setState who s) :=
  h.of_append [.stateSet who s] rfl rfl (.of_same rfl) (by simp [Event.glances])

theorem lower (h : Recalls k) (who : Actor) : Recalls (k.lower who) := by
  unfold Keeper.lower
  split
  · exact h
  · exact h.setState _ _

theorem notify (h : Recalls k) (j : Nat) (n : Notice) : Recalls (k.notify (.episode j) n) :=
  h.of_plain [.noticed (.episode j) n] rfl rfl (.of_same rfl) (by simp [Event.tells])

theorem stopEpisode (h : Recalls k) (j : Nat) (e : Episode Op) : Recalls (k.stopEpisode j e) := by
  simp only [Keeper.stopEpisode]
  have hset : Recalls (k.setEpisode j { e with phase := .stopped }) := h.of_same rfl rfl rfl
  split
  · exact hset.setState _ _
  · exact hset

theorem conclude (h : Recalls k) (c : Nat) (answer : Answer) : Recalls (k.conclude c answer) :=
  have hset : Recalls (k.setCall c (.answered answer)) := h.of_same rfl rfl rfl
  hset.record rfl

/-- A watch looks at the link, and announces no loss. -/
theorem of_look (h : Recalls k) {w' : Watch Op} {b : Bool} (es : List Event)
    (hh : k'.history = es ++ .looked i b :: k.history) (hs : k'.state = k.state)
    (hw' : k'.watches = k.watches.set i w') (he : ∀ e ∈ es, e.tells = false)
    (hsight : w'.seenUp = true → Sighted i (.looked i b :: k.history)) : Recalls k' := by
  have hplain : ∀ e ∈ es, ∀ n, e.glances n = false :=
    fun e h => Event.glances_of_tells (he e h)
  refine ⟨?_, fun {n v} hv hseen => ?_, fun {newer older n m} hcut => ?_⟩
  · rw [hs, hh, stateIn_append he, h.state]
    rfl
  · rw [hh]
    refine Sighted.append ?_ es fun e he' => hplain e he' n
    rw [hw'] at hv
    rcases getElem?_set_eq_some hv with ⟨rfl, rfl⟩ | ⟨hne, hv⟩
    · exact hsight hseen
    · exact .later (h.seen hv hseen) (by simp [Event.glances, hne])
  · rw [hh, ← List.singleton_append, ← List.append_assoc] at hcut
    have hlook : ∀ e ∈ es ++ [.looked i b], e.glances n = false ∨ ∃ j b, e = .looked j b := by
      intro e he'
      rcases List.mem_append.1 he' with he' | he'
      · exact .inl (hplain e he' n)
      · exact .inr ⟨i, b, List.mem_singleton.1 he'⟩
    obtain ⟨newer', hcut'⟩ := cut_of_append _ hlook hcut
    exact h.losses hcut'

theorem lose (h : Recalls k) {w w' : Watch Op} (hw : k.watches[i]? = some w)
    (hseen : w.seenUp = true) (hs : k.state ≠ .reconnecting) (hw' : w'.seenUp = false) :
    Recalls (((k.record (.looked i false)).lose i).setWatch i w') := by
  obtain ⟨r, hr⟩ : ∃ r, (((k.record (.looked i false)).lose i).setWatch i w').history =
      .noticed (.watch i) (.lost k.config.reconnectTimeoutSecs) ::
        .stateSet (.watch i) .reconnecting :: .logged r :: .looked i false :: k.history := ⟨_, rfl⟩
  refine ⟨by rw [hr]; rfl, fun {n v} hv hvs => ?_, fun {newer older n m} hcut => ?_⟩
  · have hset : (k.watches.set i w')[n]? = some v := hv
    rcases getElem?_set_eq_some hset with ⟨rfl, rfl⟩ | ⟨hne, hv⟩
    · simp [hw'] at hvs
    · rw [hr]
      refine (h.seen hv hvs).append [_, _, _, _] ?_
      simp [Event.glances, hne]
  · rw [hr] at hcut
    cases newer with
    | nil =>
      obtain ⟨he, rfl⟩ := List.cons.inj hcut
      obtain ⟨rfl, -⟩ : i = n ∧ _ := by simpa using he
      exact ⟨r, k.history, rfl, h.state ▸ hs, h.seen hw hseen⟩
    | cons e newer =>
      obtain ⟨newer', hcut'⟩ := cut_of_append [_, _, _]
        (by simp [Event.glances]) (List.cons.inj hcut).2
      exact h.losses hcut'

theorem forward (h : Recalls k) (i : Nat) : Recalls (k.forward i) := by
  rw [forward_eq]
  refine h.of_plain _ rfl rfl (.of_same rfl) fun e he => ?_
  split at he
  · cases he
  · obtain rfl := List.mem_singleton.1 he
    rfl

theorem ensureWatch (h : Recalls k) : Recalls k.ensureWatch := by
  unfold Keeper.ensureWatch
  split
  · exact h
  · exact h.of_plain [.watchBegan _] rfl rfl (.of_concat rfl) (by simp [Event.tells])

theorem raiseStop (h : Recalls k) (i : Nat) : Recalls ({ k with slot := none }.raiseStop i) := by
  rw [raiseStop_eq]
  refine h.of_plain _ rfl rfl (.of_modify rfl fun _ => rfl) fun e he => ?_
  split at he
  · obtain rfl := List.mem_singleton.1 he
    rfl
  · cases he

theorem abortWatch (h : Recalls k) (i : Nat) : Recalls (k.abortWatch T i) := by
  obtain ⟨s, hk⟩ := abortWatch_eq T i k
  rw [hk]
  refine h.of_minds rfl rfl (.of_modify rfl fun w => ?_)
  unfold Watch.abort
  split <;> rfl

theorem abortLastEpisode (h : Recalls k) (i : Nat) : Recalls (k.abortLastEpisode T i) := by
  obtain ⟨s, hk⟩ := abortLastEpisode_eq T i k
  rw [hk]
  exact h.of_minds rfl rfl (.of_modify rfl fun _ => rfl)

theorem move (h : Recalls k) (hm : Move T a k k') : Recalls k' := by
  cases hm with
  | say ls => exact h.say ls
  | leave hw hi hst => exact h.of_minds rfl rfl (.of_set hw rfl rfl)
  | sight hw hl hst hu =>
    exact h.of_look [.invoked _ .pump] rfl rfl rfl (by simp [Event.tells]) fun _ => .up _
  | pumping hw hp ht => exact (h.absorb _ _).of_minds rfl rfl (.of_set hw rfl rfl)
  | @pumped i _ w op _ ls hw hp ht =>
    have hforward := ((h.absorb (.watch i) (k.turn T op)).say ls).forward i
    rw [forward_eq] at hforward
    rw [rest_eq, forward_eq]
    exact hforward.of_minds rfl rfl (.of_set hw rfl rfl)
  | @ignore _ _ w hw hl hst hu hn =>
    rw [rest_eq]
    refine h.of_look [] rfl rfl rfl (by simp) fun hseen => ?_
    have hrec : k.state = .reconnecting := hn.resolve_left (by simpa using hseen)
    exact .down (h.seen hw hseen) (h.state.symm.trans hrec)
  | lose hw hl hst hu hseen hs => exact h.lose hw hseen hs rfl
  | beginEpisode hw hp ho =>
    unfold Keeper.beginEpisode
    rw [rest_eq]
    exact h.of_plain [.episodeBegan _] rfl rfl (.of_set hw rfl rfl) (by simp [Event.tells])
  | finish hw hp ho => exact h.of_minds rfl rfl (.of_set hw rfl rfl)
  | announce he ht hst hlt =>
    exact ((h.notify _ _).record rfl).of_same rfl rfl rfl
  | @timeOut j _ e he ht hst hl =>
    have hset : Recalls (k.setEpisode j { e with phase := .timedOut }) := h.of_same rfl rfl rfl
    exact ((hset.setState _ _).notify _ _).say [_]
  | stop he hi hst => exact h.stopEpisode _ _
  | dialing he hp ht => exact (h.absorb _ _).of_same rfl rfl rfl
  | @succeed j _ e op _ he hp ht hst ho =>
    have hset : Recalls ((k.absorb (.episode j) (k.turn T op)).setEpisode j
        { e with phase := .succeeded }) := (h.absorb _ _).of_same rfl rfl rfl
    exact ((hset.setState _ _).notify _ _).say [_]
  | fail ls he hp ht hst ho => exact ((h.absorb _ _).say ls).of_same rfl rfl rfl
  | drain he hp ht hst ho => exact (h.absorb _ _).stopEpisode _ _
  | undo he hp ht hst ho => exact ((h.absorb _ _).record rfl).of_same rfl rfl rfl
  | closing he hp ht => exact (h.absorb _ _).of_same rfl rfl rfl
  | undone ls he hp ht => exact ((h.absorb _ _).say ls).stopEpisode _ _
  | dial hc hi hs => exact (h.record rfl).of_same rfl rfl rfl
  | send hc hi hs => exact (h.record rfl).of_same rfl rfl rfl
  | claim hc hr => exact h.of_same rfl rfl rfl
  | refuse ls hc hf => exact (h.say ls).conclude _ _
  | messages hc =>
    have hempty : Recalls { k with queue := [] } := h.of_same rfl rfl rfl
    exact (hempty.record rfl).conclude _ _
  | dialingCall hc ht => exact (h.absorb _ _).of_same rfl rfl rfl
  | dialFailed ls hc ht ho => exact ((h.absorb _ _).say ls).conclude _ _
  | @accept c _ target op _ hc ht ho hs =>
    have hend : Recalls { k.absorb (.call c) (k.turn T op) with endpoint := some target } :=
      (h.absorb _ _).of_same rfl rfl rfl
    exact (hend.setState _ _).of_same rfl rfl rfl
  | ensure ls hc => exact (h.ensureWatch.say ls).conclude _ _
  | sending hc ht => exact (h.absorb _ _).of_same rfl rfl rfl
  | sent hc ht => exact (h.absorb _ _).conclude _ _
  | join hc hs => exact (h.raiseStop _).of_same rfl rfl rfl
  | joined hc ho => exact h.abortLastEpisode _
  | abort hc ho hd => exact (h.abortWatch _).abortLastEpisode _
  | close hcl hu => exact (h.record rfl).of_same rfl rfl rfl
  | skip hcl hu => exact (h.lower _).conclude _ _
  | closingCall hc ht => exact (h.absorb _ _).of_same rfl rfl rfl
  | closed ls ls' hc ht => exact ((((h.absorb _ _).say ls).lower _).say ls').conclude _ _
  | release hh hn hs => exact (h.raiseStop _).abortLastEpisode _

theorem befall {s : Step State} (h : Recalls k) (hb : Befalls k s k') : Recalls k' := by
  cases hb with
  | call r => exact h.of_plain [.called _ r] rfl rfl (.of_same rfl) (by simp [Event.tells])
  | _ => exact h.of_same rfl rfl rfl

theorem fresh {config : LinkConfig} {transport : State} {installed : Bool} :
    Recalls (Keeper.fresh config transport installed : Keeper State Op) := by
  refine ⟨rfl, ?_, ?_⟩ <;> simp [Keeper.fresh]

end Recalls

/-- A loss that a watch announces was sighted before: since the watch has found the link up, it has
found it down only while the state was reconnecting. So it has found it up since the loss before. -/
theorem sighted_of_loss {config : LinkConfig} {transport : State} {installed : Bool}
    {ss : List (Step State)} (h : Runs T (fresh config transport installed) ss k)
    {newer older : List Event} {n : Notice}
    (hloss : k.history = newer ++ .noticed (.watch i) n :: older) :
    k.state = stateIn k.history ∧ Announced i older ∧
      ∀ mid oldest m, older = mid ++ .noticed (.watch i) m :: oldest → .looked i true ∈ mid := by
  have hrec : Recalls k := h.keeps (fun hm h => h.move hm) (fun hb h => h.befall hb) .fresh
  have hann := hrec.losses hloss
  refine ⟨hrec.state, hann, fun mid oldest m hold => ?_⟩
  obtain ⟨r, rest, rfl, -, hsight⟩ := hann
  have hcut : [.stateSet (.watch i) .reconnecting, .logged r, .looked i false] ++ rest =
      mid ++ .noticed (.watch i) m :: oldest := hold
  rcases append_eq_append_cons hcut with ⟨mid', rfl, hrest⟩ | ⟨es, hes, -⟩
  · rw [hrest] at hsight
    exact List.mem_append_right _ hsight.up_mem
  · have hmem : Event.noticed (.watch i) m ∈ [.stateSet (.watch i) .reconnecting, .logged r,
        .looked i false] := by
      rw [hes]
      simp
    simp at hmem

/-- A connection is lost and no attempt gets it back. In the meantime the link comes up and goes
down again by itself, which the watch sees. -/
def failureSteps : List (Step Rehearsal.Stage) :=
  let refusing : Rehearsal.Stage := { fallback := { dial := .code (-3) } }
  [.call (.connect none none), .resume (.call 0), .resume (.call 0), .resume (.watch 0),
    .disturb refusing, .pass 10, .resume (.watch 0), .resume (.episode 0),
    .disturb { refusing with up := true }, .pass 10, .resume (.watch 0),
    .disturb refusing, .pass 10, .resume (.watch 0),
    .pass 5000, .resume (.episode 0), .pass 10, .resume (.watch 0)]

theorem sighted_of_loss_again : ∃ k older,
    Runs Rehearsal.stage (fresh { reconnectTimeoutSecs := 5 } {} true) failureSteps k ∧
    k.history = [] ++ .noticed (.watch 0) (.lost 5) :: older ∧ Announced 0 older := by
  obtain ⟨k, older, hr, hloss⟩ : ∃ k older,
      Runs Rehearsal.stage (fresh { reconnectTimeoutSecs := 5 } {} true) failureSteps k ∧
      k.history = [] ++ .noticed (.watch 0) (.lost 5) :: older :=
    ⟨_, _, .cons rfl <| .cons rfl <| .cons rfl <| .cons rfl <| .cons rfl <| .cons rfl <|
      .cons rfl <| .cons rfl <| .cons rfl <| .cons rfl <| .cons rfl <| .cons rfl <| .cons rfl <|
      .cons rfl <| .cons rfl <| .cons rfl <| .cons rfl <| .cons rfl <| .nil _, rfl⟩
  exact ⟨k, older, hr, hloss, (sighted_of_loss hr hloss).2.1⟩

/-- After an episode has failed the watch announces a loss, although its look before, and every one
since the failure, found the link down; and the next episode makes an attempt. -/
theorem loss_after_failure : ∃ k,
    RunsUnder Rehearsal.stage InTurn (fresh { reconnectTimeoutSecs := 5 } {} true)
      (failureSteps ++ [.resume (.watch 0), .resume (.episode 1)]) k ∧
    k.history.filter Event.tells =
      [.noticed (.watch 0) (.lost 5), .stateSet (.watch 0) .reconnecting, .looked 0 false,
        .stateSet (.episode 0) .failed, .looked 0 false, .looked 0 true,
        .noticed (.watch 0) (.lost 5), .stateSet (.watch 0) .reconnecting, .looked 0 false,
        .looked 0 true, .stateSet (.call 0) .connected] ∧
    k.deeds (Event.by (.episode 1)) = [.noticed (.episode 1) (.attempt 1 5),
      .invoked (.episode 1) (.connect ({} : LinkConfig).endpoint),
      .returned (.episode 1) (.ok (-3))] :=
  ⟨_, .cons rfl rfl <| .cons trivial rfl <| .cons trivial rfl <| .cons trivial rfl <|
    .cons trivial rfl <| .cons trivial rfl <| .cons trivial rfl <| .cons trivial rfl <|
    .cons trivial rfl <| .cons trivial rfl <| .cons trivial rfl <| .cons trivial rfl <|
    .cons trivial rfl <| .cons trivial rfl <| .cons trivial rfl <| .cons trivial rfl <|
    .cons trivial rfl <| .cons trivial rfl <| .cons trivial rfl <| .cons trivial rfl <| .nil _,
    rfl, rfl⟩

end Keeper

end SessionKeeper

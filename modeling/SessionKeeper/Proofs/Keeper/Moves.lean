import SessionKeeper.Keeper.Step
import SessionKeeper.Proofs.Lists

/-!
# What an actor does

When an actor goes on, it makes a few moves one after the other. A move takes one decision: it
looks, announces, answers, gives up, or lets an operation have a turn. Everything an actor can do to
a keeper is a `Move`, with what it found when it did it. The operations that moves are made of are
given here as plain updates (`operate_eq`, `forward_eq`, `rest_eq`, `abortLastEpisode_eq`, ...),
which is how invariants read them.
-/

namespace SessionKeeper

/-- What a turn on behalf of `who` leaves in the history, newest first. -/
def Turn.events {State Op : Type} (who : Actor) (t : Turn State Op) : List Event :=
  (match t.progress with | .pending _ => [] | .done r => [.returned who r])
    ++ (t.log.map .logged).reverse
    ++ (if t.delivered.isEmpty then [] else [.delivered t.delivered])

variable {State Op : Type}

/-- A watch that looks at the link when it goes on. -/
def Watch.Looks (now : Nat) (w : Watch Op) : Prop :=
  w.phase = .looking ∨ ∃ wake ≤ now, w.phase = .resting wake

/-- A watch that is between two looks. -/
def Watch.Idle (w : Watch Op) : Prop := w.phase = .looking ∨ ∃ wake, w.phase = .resting wake

/-- An episode that makes an attempt when it goes on. -/
def Episode.Tries (now : Nat) (e : Episode Op) : Prop :=
  e.phase = .starting ∨ ∃ wake ≤ now, e.phase = .resting wake

/-- An episode that is between two attempts. -/
def Episode.Idle (e : Episode Op) : Prop := e.phase = .starting ∨ ∃ wake, e.phase = .resting wake

/-- Where a watch waits after its session has been stopped. -/
def Watch.lastPhase (w : Watch Op) : WatchPhase Op :=
  if w.episode.isSome then .leaving else .ended

/-- Where a watch waits after a look. -/
def Watch.nextPhase (time : Nat) (w : Watch Op) : WatchPhase Op :=
  if w.stopped then w.lastPhase else .resting time

/-- An episode that is not over is aborted. -/
def Episode.abort (e : Episode Op) : Episode Op :=
  if e.phase.over then e else { e with phase := .aborted }

theorem Episode.abort_over (e : Episode Op) : e.abort.phase.over = true := by
  unfold Episode.abort
  split
  · assumption
  · rfl

def Watch.abort (w : Watch Op) : Watch Op :=
  if w.phase.over then w else { w with phase := .aborted }

theorem Watch.abort_over (w : Watch Op) : w.abort.phase.over = true := by
  unfold Watch.abort
  split
  · assumption
  · rfl

theorem Watch.abort_abortable (w : Watch Op) : w.abort.abortable = w.abortable := by
  unfold Watch.abort
  split <;> rfl

theorem Watch.abort_stopped (w : Watch Op) : w.abort.stopped = w.stopped := by
  unfold Watch.abort
  split <;> rfl

namespace Keeper

def say (ls : List LogRecord) (k : Keeper State Op) : Keeper State Op :=
  { k with history := ls.map .logged ++ k.history }

/-- A keeper after a turn on behalf of `who`. -/
def absorb (who : Actor) (t : Turn State Op) (k : Keeper State Op) : Keeper State Op :=
  { k with
    transport := t.state
    inbound := k.inbound ++ t.delivered
    history := t.events who ++ k.history }

/-- An attempt begins: it has been announced, and the transport asked. -/
def announce (T : Transport State Op) (i : Nat) (e : Episode Op) (k : Keeper State Op) :
    Keeper State Op :=
  let left := (k.config.reconnectTimeout - (k.now - e.since)) / 1000
  k.notify (.episode i) (.attempt (UInt32.ofNat (e.attempts + 1)) (UInt64.ofNat left))
    |>.record (.invoked (.episode i) (.connect e.target))
    |>.setEpisode i
      { e with attempts := e.attempts + 1, phase := .dialing (T.start (.connect e.target)) }

/-- A call has its answer. -/
def conclude (c : Nat) (a : Answer) (k : Keeper State Op) : Keeper State Op :=
  k.setCall c (.answered a) |>.record (.answered c a)

/-- A state that is not disconnected becomes so. -/
def lower (who : Actor) (k : Keeper State Op) : Keeper State Op :=
  if k.state = .disconnected then k else k.setState who .disconnected

/-- Whether a call that ends a session has only the transport left to close. -/
def Closes (c : Nat) (ending : Ending) (k : Keeper State Op) : Prop :=
  (k.calls[c]? = some (.claiming ending) ∧ k.slot = none) ∨
    ∃ i d, k.calls[c]? = some (.joining ending i d) ∧ k.watchOver i = true ∧
      ∀ w, k.watches[i]? = some w → w.abortable = none

/-- Whether a call is refused as soon as it is made, and with what. -/
def Refuses (k : Keeper State Op) (f : Failure) : CallRequest → Prop
  | .connect _ _ => (k.installed = false ∧ f = .noTransport) ∨
      (k.state = .reconnecting ∧ f = .reconnecting)
  | .disconnect => (k.installed = false ∨ k.state.hasSession = false) ∧ f = .notConnected
  | .send _ => (k.installed = false ∧ f = .noTransport) ∨ (k.state ≠ .connected ∧ f = .notConnected)
  | .cleanup | .messages => False

variable (T : Transport State Op)

/-- The turn that an operation would have now. -/
def turn (op : Op) (k : Keeper State Op) : Turn State Op := T.run op k.now k.transport

/-- What an actor can do next to a keeper. -/
inductive Move : Actor → Keeper State Op → Keeper State Op → Prop
  | say {a k} (ls) : Move a k (k.say ls)
  | leave {i k w} : k.watches[i]? = some w → w.Idle → w.stopped = true →
      Move (.watch i) k (k.leave i w)
  /-- The link is up: a pump begins. -/
  | sight {i k w} : k.watches[i]? = some w → w.Looks k.now → w.stopped = false →
      k.linkUp T = true →
      Move (.watch i) k ((k.record (.looked i true) |>.record (.invoked (.watch i) .pump)).setWatch
        i { w with seenUp := true, phase := .pumping (T.start .pump) })
  | pumping {i k w op op'} : k.watches[i]? = some w → w.phase = .pumping op →
      (k.turn T op).progress = .pending op' →
      Move (.watch i) k ((k.absorb (.watch i) (k.turn T op)).setWatch
        i { w with phase := .pumping op' })
  | pumped {i k w op r} (ls) : k.watches[i]? = some w → w.phase = .pumping op →
      (k.turn T op).progress = .done r →
      Move (.watch i) k (((k.absorb (.watch i) (k.turn T op)).say ls).forward i |>.rest i w)
  /-- The link is down, which is no news. -/
  | ignore {i k w} : k.watches[i]? = some w → w.Looks k.now → w.stopped = false →
      k.linkUp T = false → (w.seenUp = false ∨ k.state = .reconnecting) →
      Move (.watch i) k ((k.record (.looked i false)).rest i w)
  | lose {i k w} : k.watches[i]? = some w → w.Looks k.now → w.stopped = false →
      k.linkUp T = false → w.seenUp = true → k.state ≠ .reconnecting →
      Move (.watch i) k (((k.record (.looked i false)).lose i).setWatch
        i { w with seenUp := false, phase := .replacing (k.endpoint.getD k.config.endpoint) })
  | beginEpisode {i k w target} : k.watches[i]? = some w → w.phase = .replacing target →
      w.episode.all k.episodeOver = true → Move (.watch i) k (k.beginEpisode i w target)
  | finish {i k w} : k.watches[i]? = some w → w.phase = .leaving →
      w.episode.all k.episodeOver = true →
      Move (.watch i) k (k.setWatch i { w with phase := .ended })
  | announce {i k e} : k.episodes[i]? = some e → e.Tries k.now → k.isStopped e.watch = false →
      k.now - e.since < k.config.reconnectTimeout →
      Move (.episode i) k (k.announce T i e)
  | timeOut {i k e} : k.episodes[i]? = some e → e.Tries k.now → k.isStopped e.watch = false →
      k.config.reconnectTimeout ≤ k.now - e.since →
      Move (.episode i) k (k.timeOut i e)
  | stop {i k e} : k.episodes[i]? = some e → e.Idle → k.isStopped e.watch = true →
      Move (.episode i) k (k.stopEpisode i e)
  | dialing {i k e op op'} : k.episodes[i]? = some e → e.phase = .dialing op →
      (k.turn T op).progress = .pending op' →
      Move (.episode i) k ((k.absorb (.episode i) (k.turn T op)).setEpisode
        i { e with phase := .dialing op' })
  | succeed {i k e op r} : k.episodes[i]? = some e → e.phase = .dialing op →
      (k.turn T op).progress = .done r → k.isStopped e.watch = false →
      (k.absorb (.episode i) (k.turn T op)).attemptOutcome T r = .ok true →
      Move (.episode i) k ((k.absorb (.episode i) (k.turn T op)).succeed i e)
  | fail {i k e op r} (ls) : k.episodes[i]? = some e → e.phase = .dialing op →
      (k.turn T op).progress = .done r → k.isStopped e.watch = false →
      (k.absorb (.episode i) (k.turn T op)).attemptOutcome T r ≠ .ok true →
      Move (.episode i) k (((k.absorb (.episode i) (k.turn T op)).say ls).restEpisode i e)
  /-- An attempt that failed after the stop. -/
  | drain {i k e op r} : k.episodes[i]? = some e → e.phase = .dialing op →
      (k.turn T op).progress = .done r → k.isStopped e.watch = true →
      (k.absorb (.episode i) (k.turn T op)).attemptOutcome T r ≠ .ok true →
      Move (.episode i) k ((k.absorb (.episode i) (k.turn T op)).stopEpisode i e)
  /-- An attempt that succeeded after the stop. -/
  | undo {i k e op r} : k.episodes[i]? = some e → e.phase = .dialing op →
      (k.turn T op).progress = .done r → k.isStopped e.watch = true →
      (k.absorb (.episode i) (k.turn T op)).attemptOutcome T r = .ok true →
      Move (.episode i) k ((k.absorb (.episode i) (k.turn T op)
        |>.record (.invoked (.episode i) .disconnect)).setEpisode
          i { e with phase := .closing (T.start .disconnect) })
  | closing {i k e op op'} : k.episodes[i]? = some e → e.phase = .closing op →
      (k.turn T op).progress = .pending op' →
      Move (.episode i) k ((k.absorb (.episode i) (k.turn T op)).setEpisode
        i { e with phase := .closing op' })
  | undone {i k e op r} (ls) : k.episodes[i]? = some e → e.phase = .closing op →
      (k.turn T op).progress = .done r →
      Move (.episode i) k (((k.absorb (.episode i) (k.turn T op)).say ls).stopEpisode i e)
  | dial {c k host port} : k.calls[c]? = some (.opened (.connect host port)) →
      k.installed = true → k.state ≠ .reconnecting →
      Move (.call c) k ((k.record
        (.invoked (.call c) (.connect (k.config.requested host port)))).setCall c
          (.dialing (k.config.requested host port)
            (T.start (.connect (k.config.requested host port)))))
  | send {c k payload} : k.calls[c]? = some (.opened (.send payload)) →
      k.installed = true → k.state = .connected →
      Move (.call c) k ((k.record (.invoked (.call c) (.send payload))).setCall
        c (.sending (T.start (.send payload))))
  | claim {c k r ending} : k.calls[c]? = some (.opened r) →
      (r = .disconnect ∧ ending = .disconnect ∧ k.installed = true ∧ k.state.hasSession = true ∨
        r = .cleanup ∧ ending = .cleanup) →
      Move (.call c) k (k.setCall c (.claiming ending))
  /-- A call is answered as soon as it is made. -/
  | refuse {c k r f} (ls) : k.calls[c]? = some (.opened r) → k.Refuses f r →
      Move (.call c) k ((k.say ls).conclude c (.outcome f.outcome))
  | messages {c k} : k.calls[c]? = some (.opened .messages) →
      Move (.call c) k (k.takeQueue.2.conclude c (.messages k.takeQueue.1))
  | dialingCall {c k target op op'} : k.calls[c]? = some (.dialing target op) →
      (k.turn T op).progress = .pending op' →
      Move (.call c) k ((k.absorb (.call c) (k.turn T op)).setCall c (.dialing target op'))
  | dialFailed {c k target op r} {f : Failure} (ls) : k.calls[c]? = some (.dialing target op) →
      (k.turn T op).progress = .done r →
      ((k.absorb (.call c) (k.turn T op)).attemptOutcome T r = .ok true →
        k.state = .reconnecting ∧ f = .reconnecting) →
      Move (.call c) k (((k.absorb (.call c) (k.turn T op)).say ls).conclude
        c (.outcome f.outcome))
  | accept {c k target op r} : k.calls[c]? = some (.dialing target op) →
      (k.turn T op).progress = .done r →
      (k.absorb (.call c) (k.turn T op)).attemptOutcome T r = .ok true →
      k.state ≠ .reconnecting →
      Move (.call c) k ({ k.absorb (.call c) (k.turn T op) with endpoint := some target }.setState
        (.call c) .connected |>.setCall c (.recorded target))
  | ensure {c k target} (ls) : k.calls[c]? = some (.recorded target) →
      Move (.call c) k ((k.ensureWatch.say ls).conclude c (.outcome (Outcome.done "Connected")))
  | sending {c k op op'} : k.calls[c]? = some (.sending op) →
      (k.turn T op).progress = .pending op' →
      Move (.call c) k ((k.absorb (.call c) (k.turn T op)).setCall c (.sending op'))
  | sent {c k op r} : k.calls[c]? = some (.sending op) → (k.turn T op).progress = .done r →
      Move (.call c) k ((k.absorb (.call c) (k.turn T op)).conclude c (.outcome
        (match r with
          | .error f => (Failure.fault f).outcome
          | .ok code =>
            if code = StatusCode.ok then Outcome.silent else (Failure.sendFailed code).outcome)))
  | join {c k ending i} : k.calls[c]? = some (.claiming ending) → k.slot = some i →
      Move (.call c) k ({ k with slot := none }.raiseStop i |>.setCall
        c (.joining ending i (wake k.now k.config.joinTimeout)))
  /-- The watch that a call waited for has ended. -/
  | joined {c k ending i d} : k.calls[c]? = some (.joining ending i d) → k.watchOver i = true →
      Move (.call c) k (k.abortLastEpisode T i)
  /-- A call has waited long enough for a watch. -/
  | abort {c k ending i d} : k.calls[c]? = some (.joining ending i d) → k.watchOver i = false →
      d ≤ k.now → Move (.call c) k ((k.abortWatch T i).abortLastEpisode T i)
  | close {c k ending} : k.Closes c ending → (ending = .cleanup → k.isConnected T = true) →
      Move (.call c) k ((k.record (.invoked (.call c) .disconnect)).setCall
        c (.closing ending (T.start .disconnect)))
  /-- There is nothing to close. -/
  | skip {c k} : k.Closes c .cleanup → k.isConnected T = false →
      Move (.call c) k ((k.lower (.call c)).conclude c .done)
  | closingCall {c k ending op op'} : k.calls[c]? = some (.closing ending op) →
      (k.turn T op).progress = .pending op' →
      Move (.call c) k ((k.absorb (.call c) (k.turn T op)).setCall c (.closing ending op'))
  | closed {c k ending op r} (ls ls') : k.calls[c]? = some (.closing ending op) →
      (k.turn T op).progress = .done r →
      Move (.call c) k (((((k.absorb (.call c) (k.turn T op)).say ls).lower
        (.call c)).say ls').conclude c (match ending with
          | .disconnect => .outcome (Outcome.done "Disconnected")
          | .cleanup => .done))
  /-- Nobody holds the keeper any more. -/
  | release {a k i} : k.held = false → k.calls.any (fun p => p.answer?.isNone) = false →
      k.slot = some i →
      Move a k ({ k with slot := none }.raiseStop i |>.abortLastEpisode T i)

variable {T}

theorem foldl_record (ls : List LogRecord) (k : Keeper State Op) :
    ls.foldl (fun k r => k.record (.logged r)) k
      = { k with history := (ls.map .logged).reverse ++ k.history } := by
  induction ls generalizing k with
  | nil => rfl
  | cons r ls ih =>
    rw [List.foldl_cons, ih]
    simp [record]

theorem operate_eq (who : Actor) (op : Op) (k : Keeper State Op) :
    k.operate T who op = (k.absorb who (k.turn T op), (k.turn T op).progress) := by
  unfold operate absorb turn Turn.events
  obtain ⟨s, p, d, ls⟩ := T.run op k.now k.transport
  simp only [foldl_record]
  cases p <;> cases d <;> simp [record]

theorem log_eq (level : LogLevel) (source : LogSource) (text : String) (k : Keeper State Op) :
    k.log level source text = k.say [⟨level, source, text⟩] := rfl

theorem forward_eq (i : Nat) (k : Keeper State Op) : k.forward i = { k with
    queue := k.queue ++ k.inbound
    inbound := []
    history := (if k.inbound.isEmpty then [] else [.forwarded i k.inbound]) ++ k.history } := by
  unfold forward record
  split
  · rename_i h
    rw [List.isEmpty_iff] at h
    obtain ⟨⟩ := k
    simp_all
  · rfl

theorem rest_eq (i : Nat) (w : Watch Op) (k : Keeper State Op) : k.rest i w =
    k.setWatch i { w with phase := w.nextPhase (wake k.now k.config.pollInterval) } := by
  unfold rest leave Watch.nextPhase Watch.lastPhase
  split <;> rfl

theorem lower_eq (who : Actor) (k : Keeper State Op) : k.lower who = { k with
    state := .disconnected
    history := (if k.state = .disconnected then [] else [.stateSet who .disconnected])
      ++ k.history } := by
  unfold lower
  split
  · rename_i h
    obtain ⟨⟩ := k
    simp_all
  · rfl

theorem stopEpisode_eq (i : Nat) (e : Episode Op) (k : Keeper State Op) :
    k.stopEpisode i e = { k with
      state := if k.state = .reconnecting then .disconnected else k.state
      episodes := k.episodes.set i { e with phase := .stopped }
      history := (if k.state = .reconnecting then [.stateSet (.episode i) .disconnected] else [])
        ++ k.history } := by
  by_cases h : k.state = .reconnecting <;> simp [stopEpisode, setEpisode, setState, record, h]

theorem isStopped_iff {i : Nat} {k : Keeper State Op} :
    k.isStopped i = true ↔ ∃ w, k.watches[i]? = some w ∧ w.stopped = true := by
  unfold isStopped
  rcases k.watches[i]? with _ | w <;> simp

theorem isStopped_congr {k k' : Keeper State Op} (hw : k'.watches = k.watches) (i : Nat) :
    k'.isStopped i = k.isStopped i := by
  rw [isStopped, isStopped, hw]

/-- What changes the watches and lowers no stop signal keeps the sessions stopped. -/
theorem isStopped_set {k k' : Keeper State Op} {i j : Nat} {w w' : Watch Op}
    (hw : k.watches[i]? = some w) (hw' : k'.watches = k.watches.set i w')
    (hst : w.stopped = true → w'.stopped = true) (h : k.isStopped j = true) :
    k'.isStopped j = true := by
  obtain ⟨v, hv, hvs⟩ := isStopped_iff.1 h
  rw [isStopped_iff, hw']
  by_cases hij : i = j
  · subst hij
    rw [hw] at hv
    cases hv
    exact ⟨w', getElem?_set_self_of_eq_some hw, hst hvs⟩
  · exact ⟨v, by rw [List.getElem?_set_ne hij, hv], hvs⟩

theorem isStopped_concat {k k' : Keeper State Op} {j : Nat} {w : Watch Op}
    (hw' : k'.watches = k.watches ++ [w]) (h : k.isStopped j = true) : k'.isStopped j = true := by
  obtain ⟨v, hv, hvs⟩ := isStopped_iff.1 h
  rw [isStopped_iff, hw']
  exact ⟨v, getElem?_concat_eq_some.2 (.inl hv), hvs⟩

theorem isStopped_modify {k k' : Keeper State Op} {i j : Nat} {f : Watch Op → Watch Op}
    (hw' : k'.watches = k.watches.modify i f)
    (hf : ∀ w, w.stopped = true → (f w).stopped = true) (h : k.isStopped j = true) :
    k'.isStopped j = true := by
  obtain ⟨v, hv, hvs⟩ := isStopped_iff.1 h
  rw [isStopped_iff, hw']
  refine ⟨_, getElem?_modify_eq_some.2 ⟨v, hv, rfl⟩, ?_⟩
  split
  · exact hf v hvs
  · exact hvs

theorem abortEpisode_eq (T : Transport State Op) (j : Nat) (k : Keeper State Op) :
    ∃ s, k.abortEpisode T j =
      { k with transport := s, episodes := k.episodes.modify j Episode.abort } := by
  unfold abortEpisode
  split
  · rename_i h
    exact ⟨k.transport, by rw [List.modify_eq_self (List.getElem?_eq_none_iff.1 h)]⟩
  rename_i e he
  rw [← set_eq_modify _ he]
  have hself : k.episodes.set j e = k.episodes := by
    obtain ⟨hj, rfl⟩ := List.getElem?_eq_some_iff.1 he
    exact List.set_getElem_self hj
  split <;> rename_i hp <;> simp only [Episode.abort, hp, EpisodePhase.over]
  all_goals first
    | exact ⟨_, rfl⟩
    | exact ⟨k.transport, by simp [hself]⟩

theorem abortWatch_eq (T : Transport State Op) (i : Nat) (k : Keeper State Op) :
    ∃ s, k.abortWatch T i =
      { k with transport := s, watches := k.watches.modify i Watch.abort } := by
  unfold abortWatch
  split
  · rename_i h
    exact ⟨k.transport, by rw [List.modify_eq_self (List.getElem?_eq_none_iff.1 h)]⟩
  rename_i w hw
  rw [← set_eq_modify _ hw]
  unfold Watch.abort
  split
  · obtain ⟨hi, rfl⟩ := List.getElem?_eq_some_iff.1 hw
    exact ⟨k.transport, by simp⟩
  · split <;> exact ⟨_, rfl⟩

theorem raiseStop_eq (i : Nat) (k : Keeper State Op) : k.raiseStop i = { k with
    watches := k.watches.modify i fun w => { w with stopped := true }
    history := (if i < k.watches.length then [.stopRaised i] else []) ++ k.history } := by
  unfold raiseStop
  split
  · rename_i h
    rw [List.getElem?_eq_none_iff] at h
    rw [List.modify_eq_self h, if_neg (Nat.not_lt.2 h)]
    rfl
  · rename_i w hw
    rw [← set_eq_modify _ hw, if_pos (List.getElem?_eq_some_iff.1 hw).1]
    rfl

/-- The episode that is aborted with a session. -/
def abortableOf (i : Nat) (k : Keeper State Op) : Option Nat := k.watches[i]?.bind (·.abortable)

theorem abortableOf_modify {k k' : Keeper State Op} {j : Nat} {f : Watch Op → Watch Op}
    (h : k'.watches = k.watches.modify j f) (hf : ∀ w, (f w).abortable = w.abortable) (n : Nat) :
    k'.abortableOf n = k.abortableOf n := by
  unfold abortableOf
  rw [h, List.getElem?_modify]
  rcases k.watches[n]? with _ | w
  · rfl
  · split <;> simp [hf]

theorem abortLastEpisode_eq (T : Transport State Op) (i : Nat) (k : Keeper State Op) :
    ∃ s, k.abortLastEpisode T i = { k with
      transport := s
      watches := k.watches.modify i fun w => { w with abortable := none }
      episodes :=
        (k.abortableOf i).elim k.episodes fun j => k.episodes.modify j Episode.abort } := by
  unfold abortLastEpisode abortableOf
  split
  · rename_i h
    rw [h, List.modify_eq_self (List.getElem?_eq_none_iff.1 h)]
    exact ⟨k.transport, rfl⟩
  rename_i w hw
  rw [hw, ← set_eq_modify _ hw]
  split
  · rename_i hn
    have hself : k.watches.set i { w with abortable := none } = k.watches := by
      obtain ⟨hi, rfl⟩ := List.getElem?_eq_some_iff.1 hw
      rw [← hn]
      exact List.set_getElem_self hi
    exact ⟨k.transport, by simp [hn, hself]⟩
  · rename_i j hj
    obtain ⟨s, hs⟩ := abortEpisode_eq T j (k.setWatch i { w with abortable := none })
    exact ⟨s, by rw [hs]; simp [hj, setWatch]⟩

theorem getElem?_of_abort {o : Option Nat} {l : List (Episode Op)} {j : Nat} {e : Episode Op}
    (h : (o.elim l fun n => l.modify n Episode.abort)[j]? = some e) :
    ∃ e₀, l[j]? = some e₀ ∧ (e = e₀ ∧ o ≠ some j ∨ e = e₀.abort) := by
  rcases o with _ | n
  · exact ⟨e, h, .inl ⟨rfl, nofun⟩⟩
  · obtain ⟨e₀, he₀, rfl⟩ := getElem?_modify_eq_some.1 h
    by_cases hn : n = j
    · exact ⟨e₀, he₀, .inr (if_pos hn)⟩
    · exact ⟨e₀, he₀, .inl ⟨if_neg hn, fun h => hn (Option.some.inj h)⟩⟩

theorem watchOver_abortWatch (i : Nat) (k : Keeper State Op) :
    (k.abortWatch T i).watchOver i = true := by
  obtain ⟨s, hs⟩ := abortWatch_eq T i k
  rw [hs]
  simp only [watchOver, List.getElem?_modify_eq]
  rcases k.watches[i]? with _ | w
  · rfl
  · exact w.abort_over

end Keeper

end SessionKeeper

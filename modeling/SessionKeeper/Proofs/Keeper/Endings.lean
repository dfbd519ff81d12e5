import SessionKeeper.Proofs.Keeper.Timeline
import SessionKeeper.Proofs.Keeper.Watches

/-!
# How sessions end

A call takes a session out of its slot, waits for its watch, and goes on when that is over. So a
session that has left the slot is over or waited for (`Handled`), unless the keeper was let go, and
a session that is over does nothing more (`silent_of_past`). A call that ends sessions may promise
no more than that: when it returns, another call may still wait for a session that began before it
(`ended_of_run`), and so may one when the next session begins (`elder_of_run`). In the meantime an
attempt of the old session goes on, and may close the link of the new one (`elder_closes`).
-/

namespace SessionKeeper

variable {State Op : Type}

/-- A call that has yet to empty the slot. -/
def CallPhase.sweeps : CallPhase Op → Bool
  | opened .disconnect | opened .cleanup | claiming _ => true
  | _ => false

/-- A call that was answered with a failure. -/
def CallPhase.refused : CallPhase Op → Bool
  | answered (.outcome o) => !o.success
  | _ => false

/-- A call under way that does not end a session, or has only the transport left to close. -/
def CallPhase.roams : CallPhase Op → Bool
  | opened .disconnect | opened .cleanup | claiming _ | joining _ _ _ | answered _ => false
  | _ => true

theorem CallPhase.busy_of_sweeps {p : CallPhase Op} (h : p.sweeps = true) :
    p.answer?.isSome = false := by
  cases p <;> simp_all [sweeps, answer?]

theorem CallPhase.answered_of_refused {p : CallPhase Op} (h : p.refused = true) :
    p.answer?.isSome = true := by
  cases p <;> simp_all [refused, answer?]

/-- A deed of a watch, other than the end of an operation. -/
def Event.acts (i : Nat) (e : Event) : Bool := e.by (.watch i) && !e.returns

theorem Event.by_ne {e : Event} {a b : Actor} (he : e.who? = some b) (hne : b ≠ a) :
    e.by a = false := by
  rw [Event.by, he]
  simp [hne]

namespace Keeper

variable {T : Transport State Op} {k k' : Keeper State Op} {i c n : Nat}

/-- Neither the owner nor a call holds the keeper. -/
def Free (k : Keeper State Op) : Prop :=
  k.held = false ∧ ∀ p ∈ k.calls, p.answer?.isSome = true

/-- A call waits for the watch of a session. -/
def Joins (k : Keeper State Op) (i : Nat) : Prop :=
  ∃ (c : Nat) (ending : Ending) (d : Nat), k.calls[c]? = some (.joining ending i d)

theorem Joins.busy (h : k.Joins i) : k.idle = false := by
  obtain ⟨c, ending, d, hc⟩ := h
  exact List.all_eq_false.2 ⟨_, List.mem_of_getElem? hc, by simp [CallPhase.answer?]⟩

/-- A session that was stopped, and is over or waited for. -/
def Handled (k : Keeper State Op) (i : Nat) : Prop :=
  ∃ w, k.watches[i]? = some w ∧ w.stopped = true ∧ (w.phase.over = true ∨ k.Joins i)

/-- How a call goes on: it leaves a watch that is over, and empties the slot if it is to. -/
structure Goes (k k' : Keeper State Op) (p p' : CallPhase Op) : Prop where
  busy : p.answer?.isSome = false
  joined : ∀ ending i d, p = .joining ending i d → k.watchOver i = true
  swept : p.sweeps = true → p'.sweeps = true ∨ p'.refused = true ∨ k'.slot = none

/-- What a move does to the calls: nothing, or one that has not answered goes on. -/
structure Answers (k k' : Keeper State Op) : Prop where
  held : k'.held = k.held
  calls : k'.calls = k.calls ∨ ∃ (c : Nat) (p p' : CallPhase Op), k.calls[c]? = some p ∧
    k'.calls = k.calls.set c p' ∧ Goes k k' p p'

namespace Answers

theorem of_same (hh : k'.held = k.held) (hc : k'.calls = k.calls) : Answers k k' := ⟨hh, .inl hc⟩

theorem of_set {p p' : CallPhase Op} (hc : k.calls[c]? = some p) (hh : k'.held = k.held)
    (hc' : k'.calls = k.calls.set c p') (hgo : Goes k k' p p') : Answers k k' :=
  ⟨hh, .inr ⟨c, p, p', hc, hc', hgo⟩⟩

theorem of_roams {p p' : CallPhase Op} (hc : k.calls[c]? = some p) (hh : k'.held = k.held)
    (hc' : k'.calls = k.calls.set c p') (hp : p.roams = true) : Answers k k' := by
  refine .of_set hc hh hc' ⟨?_, ?_, ?_⟩
  · cases p <;> simp_all [CallPhase.roams, CallPhase.answer?]
  · rintro ending i d rfl
    cases hp
  · unfold CallPhase.sweeps
    split <;> simp_all [CallPhase.roams]

theorem of_closes {ending : Ending} {p' : CallPhase Op} (hcl : k.Closes c ending)
    (hh : k'.held = k.held) (hs : k'.slot = k.slot) (hc' : k'.calls = k.calls.set c p') :
    Answers k k' := by
  rcases hcl with ⟨hc, hnone⟩ | ⟨i, d, hc, ho, -⟩
  · exact .of_set hc hh hc' ⟨rfl, by simp, fun _ => .inr (.inr (hs.trans hnone))⟩
  · refine .of_set hc hh hc' ⟨rfl, fun _ _ _ hp => ?_, by simp [CallPhase.sweeps]⟩
    cases hp
    exact ho

theorem of_refuse {r : CallRequest} {f : Failure} (hc : k.calls[c]? = some (.opened r))
    (hh : k'.held = k.held) (hc' : k'.calls = k.calls.set c (.answered (.outcome f.outcome))) :
    Answers k k' :=
  .of_set hc hh hc' ⟨rfl, by simp, fun _ => .inr (.inl rfl)⟩

theorem move {a : Actor} (hm : Move T a k k') : Answers k k' := by
  cases hm with
  | pumped ls hw hp ht =>
    rw [rest_eq, forward_eq]
    exact .of_same rfl rfl
  | ignore hw hl hst hu hn =>
    rw [rest_eq]
    exact .of_same rfl rfl
  | beginEpisode hw hp ho =>
    simp only [Keeper.beginEpisode, rest_eq, setWatch, record]
    exact .of_same rfl rfl
  | stop he hi hst =>
    rw [stopEpisode_eq]
    exact .of_same rfl rfl
  | drain he hp ht hst ho =>
    rw [stopEpisode_eq]
    exact .of_same rfl rfl
  | undone ls he hp ht =>
    rw [stopEpisode_eq]
    exact .of_same rfl rfl
  | dial hc hi hs => exact .of_roams hc rfl rfl rfl
  | send hc hi hs => exact .of_roams hc rfl rfl rfl
  | claim hc hr => exact .of_set hc rfl rfl ⟨rfl, by simp, fun _ => .inl rfl⟩
  | refuse ls hc hf => exact .of_refuse hc rfl rfl
  | messages hc => exact .of_roams hc rfl rfl rfl
  | dialingCall hc ht => exact .of_roams hc rfl rfl rfl
  | dialFailed ls hc ht ho => exact .of_roams hc rfl rfl rfl
  | accept hc ht ho hs => exact .of_roams hc rfl rfl rfl
  | ensure ls hc =>
    have hsame : k.ensureWatch.held = k.held ∧ k.ensureWatch.calls = k.calls := by
      unfold Keeper.ensureWatch
      split <;> exact ⟨rfl, rfl⟩
    exact .of_roams hc hsame.1 (congrArg (List.set · _ _) hsame.2) rfl
  | sending hc ht => exact .of_roams hc rfl rfl rfl
  | sent hc ht => exact .of_roams hc rfl rfl rfl
  | join hc hs =>
    rw [raiseStop_eq]
    exact .of_set hc rfl rfl ⟨rfl, by simp, fun _ => .inr (.inr rfl)⟩
  | @joined _ _ _ i =>
    obtain ⟨s, hk⟩ := abortLastEpisode_eq T i k
    rw [hk]
    exact .of_same rfl rfl
  | @abort _ _ _ i =>
    obtain ⟨s, hk⟩ := abortWatch_eq T i k
    obtain ⟨s', hk'⟩ := abortLastEpisode_eq T i (k.abortWatch T i)
    rw [hk', hk]
    exact .of_same rfl rfl
  | close hcl hu => exact .of_closes hcl rfl rfl rfl
  | skip hcl hu =>
    rw [lower_eq]
    exact .of_closes hcl rfl rfl rfl
  | closingCall hc ht => exact .of_roams hc rfl rfl rfl
  | closed ls ls' hc ht =>
    rw [lower_eq]
    exact .of_roams hc rfl rfl rfl
  | @release _ _ i =>
    obtain ⟨s, hk⟩ := abortLastEpisode_eq T i ({ k with slot := none }.raiseStop i)
    rw [hk, raiseStop_eq]
    exact .of_same rfl rfl
  | _ => exact .of_same rfl rfl

/-- A call that has answered stays as it is. -/
theorem answered (h : Answers k k') {p : CallPhase Op} (hc : k.calls[c]? = some p)
    (hp : p.answer?.isSome = true) : k'.calls[c]? = some p := by
  rcases h.calls with hcalls | ⟨c', q, q', hq, hcalls, hgo⟩
  · rw [hcalls, hc]
  · by_cases hcc : c' = c
    · subst hcc
      obtain rfl := Option.some.inj (hq.symm.trans hc)
      have hbusy := hgo.busy
      simp [hp] at hbusy
    · rw [hcalls, List.getElem?_set_ne hcc, hc]

theorem free (h : Answers k k') (hf : k.Free) : k'.Free := by
  refine ⟨h.held.trans hf.1, ?_⟩
  rcases h.calls with hcalls | ⟨c, p, p', hc, -, hgo⟩
  · rw [hcalls]
    exact hf.2
  · have hbusy := hgo.busy
    simp [hf.2 p (List.mem_of_getElem? hc)] at hbusy

end Answers

theorem Handled.of_answers (h : k.Handled i) (hk : Keeps k k') (hc : Answers k k') :
    k'.Handled i := by
  obtain ⟨w, hw, hst, hover⟩ := h
  obtain ⟨w', hw', hage⟩ := hk i w hw
  refine ⟨w', hw', hage.stopped hst, ?_⟩
  rcases hover with ho | ⟨c, ending, d, hj⟩
  · exact .inl (hage.ended ho)
  rcases hc.calls with hcalls | ⟨c', p, p', hp, hcalls, hgo⟩
  · exact .inr ⟨c, ending, d, hcalls ▸ hj⟩
  by_cases hcc : c' = c
  · subst hcc
    have ho := hgo.joined ending i d (Option.some.inj (hp.symm.trans hj))
    exact .inl (hage.ended (by simpa [watchOver, hw] using ho))
  · exact .inr ⟨c, ending, d, by rw [hcalls, List.getElem?_set_ne hcc]; exact hj⟩

theorem Handled.move {a : Actor} (h : k.Handled i) (hm : Move T a k k') : k'.Handled i :=
  h.of_answers (.move hm) (.move hm)

theorem Handled.befall {s : Step State} (h : k.Handled i) (hb : Befalls k s k') :
    k'.Handled i := by
  obtain ⟨w, hw, hst, ho⟩ := h
  cases hb with
  | call r =>
    refine ⟨w, hw, hst, ho.imp id ?_⟩
    rintro ⟨c, ending, d, hc⟩
    exact ⟨c, ending, d, getElem?_concat_eq_some.2 (.inl hc)⟩
  | _ => exact ⟨w, hw, hst, ho⟩

theorem Handled.run {ss : List (Step State)} (hr : Runs T k ss k') (h : k.Handled i) :
    k'.Handled i :=
  hr.keeps (P := fun k => k.Handled i) (fun hm h => h.move hm) (fun hb h => h.befall hb) h

/-- What a move does to the slot. -/
inductive Slots (k k' : Keeper State Op) : Prop
  | kept (hs : k'.slot = k.slot) (hn : k'.watches.length = k.watches.length)
  /-- A call takes the session out. -/
  | emptied {i : Nat} (hs : k.slot = some i) (hi : k'.Handled i)
      (hn : k'.watches.length = k.watches.length)
  /-- A session begins. -/
  | filled (hs : k.slot = none) (hf : ¬ k.Free) (hs' : k'.slot = some k.watches.length)
      (hn : k'.watches.length = k.watches.length + 1)
  | released (hf : k.Free) (hn : k'.watches.length = k.watches.length)

theorem Slots.ensure {target : Endpoint} (h1 : OneSession k) (ls : List LogRecord)
    (hc : k.calls[c]? = some (.recorded target)) :
    Slots k ((k.ensureWatch.say ls).conclude c (.outcome (Outcome.done "Connected"))) := by
  by_cases hp : k.isPolling = true
  · rw [Keeper.ensureWatch, if_pos hp]
    exact .kept rfl rfl
  · -- a watch in the slot goes on, so there is none
    have hnone : k.slot = none := by
      rcases hs : k.slot with _ | i
      · rfl
      · obtain ⟨w, hw, hlive, -⟩ := h1.awake_iff.2 hs
        simp [isPolling, hs, watchOver, hw, hlive] at hp
    have hbusy : ¬ k.Free := by
      intro hf
      have := hf.2 _ (List.mem_of_getElem? hc)
      simp [CallPhase.answer?] at this
    rw [Keeper.ensureWatch, if_neg hp]
    exact .filled hnone hbusy rfl (by simp [conclude, say, setCall, record])

theorem Slots.join {ending : Ending} {d : Nat} (h1 : OneSession k) (hs : k.slot = some i)
    (hc : k.calls[c]? = some (.claiming ending)) :
    Slots k (({ k with slot := none }.raiseStop i).setCall c (.joining ending i d)) := by
  obtain ⟨w, hw, -⟩ := h1.slot hs
  have hlt := (List.getElem?_eq_some_iff.1 hc).1
  rw [raiseStop_eq]
  refine .emptied hs ⟨{ w with stopped := true }, ?_, rfl, .inr ⟨c, ending, d, ?_⟩⟩ ?_
  · simp [setCall, hw]
  · simp [setCall, hlt]
  · simp [setCall]

theorem Slots.of_set {w : Watch Op} (hs : k'.slot = k.slot)
    (hw : k'.watches = k.watches.set i w) : Slots k k' :=
  .kept hs (by rw [hw, List.length_set])

theorem Slots.move {a : Actor} (h1 : OneSession k) (hm : Move T a k k') : Slots k k' := by
  cases hm with
  | leave hw hi hst => exact .of_set rfl rfl
  | sight hw hl hst hu => exact .of_set rfl rfl
  | pumping hw hp ht => exact .of_set rfl rfl
  | pumped ls hw hp ht =>
    rw [rest_eq, forward_eq]
    exact .of_set rfl rfl
  | ignore hw hl hst hu hn =>
    rw [rest_eq]
    exact .of_set rfl rfl
  | lose hw hl hst hu hseen hs => exact .of_set rfl rfl
  | beginEpisode hw hp ho =>
    simp only [Keeper.beginEpisode, rest_eq, setWatch, record]
    exact .of_set rfl rfl
  | finish hw hp ho => exact .of_set rfl rfl
  | stop he hi hst =>
    rw [stopEpisode_eq]
    exact .kept rfl rfl
  | drain he hp ht hst ho =>
    rw [stopEpisode_eq]
    exact .kept rfl rfl
  | undone ls he hp ht =>
    rw [stopEpisode_eq]
    exact .kept rfl rfl
  | ensure ls hc => exact .ensure h1 ls hc
  | join hc hs => exact .join h1 hs hc
  | @joined _ _ _ i =>
    obtain ⟨s, hk⟩ := abortLastEpisode_eq T i k
    rw [hk]
    exact .kept rfl (by simp)
  | @abort _ _ _ i =>
    obtain ⟨s, hk⟩ := abortWatch_eq T i k
    obtain ⟨s', hk'⟩ := abortLastEpisode_eq T i (k.abortWatch T i)
    rw [hk', hk]
    exact .kept rfl (by simp)
  | skip hcl hu =>
    rw [lower_eq]
    exact .kept rfl rfl
  | closed ls ls' hc ht =>
    rw [lower_eq]
    exact .kept rfl rfl
  | @release _ _ i hh hn hs =>
    obtain ⟨s, hk⟩ := abortLastEpisode_eq T i ({ k with slot := none }.raiseStop i)
    rw [hk, raiseStop_eq]
    exact .released ⟨hh, by simpa [Option.isSome_iff_ne_none] using hn⟩ (by simp)
  | _ => exact .kept rfl rfl

/-- Each of the first `n` sessions is in the slot or was handled. -/
def Tended (k : Keeper State Op) (n : Nat) : Prop := ∀ i < n, k.slot = some i ∨ k.Handled i

theorem Tended.handled (h : k.Tended n) (hs : k.slot = none) (hi : i < n) : k.Handled i := by
  rcases h i hi with hslot | hh
  · simp [hs] at hslot
  · exact hh

theorem Tended.move {a : Actor} (h : k.Tended n) (h1 : OneSession k) (hbusy : ¬ k.Free)
    (hm : Move T a k k') : k'.Tended n := by
  intro i hi
  rcases h i hi with hslot | hh
  · cases Slots.move h1 hm with
    | kept hs => exact .inl (hs.trans hslot)
    | emptied hs hh =>
      obtain rfl := Option.some.inj (hs.symm.trans hslot)
      exact .inr hh
    | filled hs => simp [hs] at hslot
    | released hf => exact absurd hf hbusy
  · exact .inr (hh.move hm)

theorem Tended.befall {s : Step State} (h : k.Tended n) (hb : Befalls k s k') : k'.Tended n := by
  intro i hi
  rcases h i hi with hs | hh
  · cases hb <;> exact .inl hs
  · exact .inr (hh.befall hb)

/-- The sessions before the current one are handled, and so is every session that has left the slot
unless nobody holds the keeper. -/
structure Awaited (k : Keeper State Op) : Prop where
  tended : ¬ k.Free → k.Tended k.watches.length
  elder : ∀ {i : Nat}, i + 1 < k.watches.length → k.Handled i

namespace Awaited

theorem fresh {config : LinkConfig} {transport : State} {installed : Bool} :
    Awaited (Keeper.fresh config transport installed : Keeper State Op) := by
  constructor <;> simp [Keeper.fresh, Tended]

theorem move {a : Actor} (h : Awaited k) (h1 : OneSession k) (hm : Move T a k k') :
    Awaited k' := by
  have hbusy : ¬ k'.Free → ¬ k.Free := fun hf hf' => hf ((Answers.move hm).free hf')
  have hkept : k'.watches.length = k.watches.length → Awaited k' := by
    intro hn
    refine ⟨fun hf => ?_, fun hi => ?_⟩
    · rw [hn]
      exact (h.tended (hbusy hf)).move h1 (hbusy hf) hm
    · rw [hn] at hi
      exact (h.elder hi).move hm
  cases Slots.move h1 hm with
  | kept _ hn => exact hkept hn
  | emptied _ _ hn => exact hkept hn
  | released _ hn => exact hkept hn
  | filled hs hf hs' hn =>
    -- the call that begins a session holds the keeper, so all others have been seen to
    have hold : ∀ {i}, i < k.watches.length → k'.Handled i :=
      fun hi => ((h.tended hf).handled hs hi).move hm
    refine ⟨fun _ i hi => ?_, fun hi => hold (by omega)⟩
    rcases Nat.lt_or_ge i k.watches.length with hlt | hge
    · exact .inr (hold hlt)
    · obtain rfl : i = k.watches.length := by omega
      exact .inl hs'

theorem of_same (h : Awaited k) (hs : k'.slot = k.slot) (hw : k'.watches = k.watches)
    (hc : ∀ (c : Nat) (p : CallPhase Op), k.calls[c]? = some p → k'.calls[c]? = some p)
    (hf : k.Free → k'.Free) : Awaited k' := by
  have hh : ∀ {i}, k.Handled i → k'.Handled i := by
    rintro i ⟨w, hw', hst, ho⟩
    exact ⟨w, hw ▸ hw', hst, ho.imp id fun ⟨c, ending, d, hj⟩ => ⟨c, ending, d, hc c _ hj⟩⟩
  refine ⟨fun hbusy i hi => ?_, fun hi => hh (h.elder (hw ▸ hi))⟩
  rw [hw] at hi
  rw [hs]
  exact (h.tended (fun hf' => hbusy (hf hf')) i hi).imp id hh

theorem befall {s : Step State} (h : Awaited k) (hheld : ∀ r, s = .call r → k.held = true)
    (hb : Befalls k s k') : Awaited k' := by
  cases hb with
  | call r =>
    refine h.of_same rfl rfl (fun c p hc => getElem?_concat_eq_some.2 (.inl hc)) fun hf => ?_
    simp [hf.1] at hheld
  | pass ms => exact h.of_same rfl rfl (fun _ _ hc => hc) id
  | disturb s => exact h.of_same rfl rfl (fun _ _ hc => hc) id
  | drop => exact h.of_same rfl rfl (fun _ _ hc => hc) fun hf => ⟨rfl, hf.2⟩

end Awaited

theorem Awaited.run {ss : List (Step State)} (h : Runs T k ss k') (h1 : OneSession k)
    (ha : Awaited k) : Awaited k' := by
  have hmove : ∀ {a k₁ k₂}, Move T a k₁ k₂ → OneSession k₁ ∧ Awaited k₁ →
      OneSession k₂ ∧ Awaited k₂ := fun hm h => ⟨h.1.move hm, h.2.move h.1 hm⟩
  refine (h.under.keeps (P := fun k => OneSession k ∧ Awaited k) (fun _ hn h => ?_) ⟨h1, ha⟩).2
  refine next?_keeps hmove (fun _ hb => ⟨h.1.befall hb, h.2.befall ?_ hb⟩) hn h
  rintro r rfl
  exact (held_of_call hn).1

/-- The watch of a session and the episodes that it began. -/
def Works (k : Keeper State Op) (i : Nat) : Actor → Prop
  | .watch j => j = i
  | .episode j => ∃ e, k.episodes[j]? = some e ∧ e.watch = i
  | .call _ => False

/-- In every run from here on the workers of a session do nothing. -/
def Silent (T : Transport State Op) (k : Keeper State Op) (i : Nat) : Prop :=
  ∀ (ss : List (Step State)) (k' : Keeper State Op), Runs T k ss k' → ∀ a, k'.Works i a →
    .resume a ∉ ss ∧ k'.deeds (Event.by a) = k.deeds (Event.by a)

/-- The watch of a session is over, and so is everything that it began. -/
def Past (k : Keeper State Op) (i : Nat) : Prop :=
  OneSession k ∧ ∃ w, k.watches[i]? = some w ∧ w.phase.over = true

namespace Past

theorem move {a : Actor} (h : k.Past i) (hm : Move T a k k') : k'.Past i := by
  obtain ⟨h1, w, hw, ho⟩ := h
  obtain ⟨w', hw', hage⟩ := Keeps.move hm i w hw
  exact ⟨h1.move hm, w', hw', hage.ended ho⟩

theorem befall {s : Step State} (h : k.Past i) (hb : Befalls k s k') : k'.Past i := by
  refine ⟨h.1.befall hb, ?_⟩
  cases hb <;> exact h.2

theorem next {s : Step State} (h : k.Past i) (hn : k.next? T s = some k') : k'.Past i :=
  next?_keeps (fun hm h => Past.move h hm) (fun _ hb => h.befall hb) hn h

theorem not_ready (h : k.Past i) {a : Actor} (ha : k.Works i a) : k.ready T a = false := by
  obtain ⟨h1, w, hw, ho⟩ := h
  rcases a with j | j | j
  · obtain rfl := ha
    rcases hp : w.phase <;> simp_all [ready, watchReady, WatchPhase.over]
  · obtain ⟨e, he, rfl⟩ := ha
    have hover : e.phase.over = true := by
      rw [← Bool.not_eq_false]
      intro hlive
      obtain ⟨w', hw', -, -, ho'⟩ := h1.owned he hlive
      obtain rfl := Option.some.inj (hw.symm.trans hw')
      simp [ho] at ho'
    rcases hp : e.phase <;> simp_all [ready, episodeReady, EpisodePhase.over]
  · exact ha.elim

end Past

theorem deeds_of_befalls (p : Event → Bool) {s : Step State} (hb : Befalls k s k') :
    k'.deeds p = k.deeds p := by
  cases hb with
  | call r => exact (deeds_record p _ _).trans (List.append_nil _)
  | _ => rfl

theorem deeds_of_next {p : Event → Bool} {s : Step State} (hn : k.next? T s = some k')
    (hp : ∀ a, s = .resume a ∨ a = .call 0 → ∀ e, e.who? = some a → p e = false) :
    k'.deeds p = k.deeds p := by
  have hmoves : ∀ {a k₁}, (s = .resume a ∨ a = .call 0) →
      Relation.ReflTransGen (Move T a) k₁ k' → k'.deeds p = k₁.deeds p := fun ha hm =>
    moves_keep (P := fun k => k.deeds p = _)
      (fun hm h => (deeds_of_move hm (hp _ ha)).trans h) hm rfl
  rcases next?_cases hn with ⟨a, rfl, hr, rfl⟩ | ⟨k₁, hb, rfl | rfl⟩
  · exact hmoves (.inl rfl) (resume_moves hr)
  · exact deeds_of_befalls p hb
  · exact (hmoves (.inr rfl) (release_moves _ k₁)).trans (deeds_of_befalls p hb)

theorem Works.earlier {a : Actor} (hn : Later k k') (ha : k'.Works i a)
    (hr : k.ready T a = true) : k.Works i a := by
  rcases a with j | j | j
  · exact ha
  · obtain ⟨e', he', rfl⟩ := ha
    obtain ⟨e, he⟩ : ∃ e, k.episodes[j]? = some e := by
      rcases hj : k.episodes[j]? with _ | e
      · simp [ready, hj] at hr
      · exact ⟨e, rfl⟩
    obtain ⟨e'', he'', hage⟩ := hn.ages he
    obtain rfl := Option.some.inj (he''.symm.trans he')
    exact ⟨e, he, hage.watch.symm⟩
  · exact ha.elim

theorem silent_of_past (h : k.Past i) : k.Silent T i := by
  intro ss k' hr a ha
  induction hr with
  | nil => simp
  | @cons k k₁ k' s ss hn hr ih =>
    obtain ⟨hnot, hdeeds⟩ := ih (h.next hn) ha
    -- whoever works for the session in the end would have been its worker here, and not ready
    have hs : s ≠ .resume a := by
      rintro rfl
      rcases next?_cases hn with ⟨b, hb, hready, rfl⟩ | ⟨k₂, hb, -⟩
      · cases hb
        have := h.not_ready (T := T) (ha.earlier (.run (.cons hn hr)) hready)
        simp [hready] at this
      · cases hb
    refine ⟨by simp [hnot, hs.symm], hdeeds.trans (deeds_of_next hn ?_)⟩
    rintro b hb e he
    refine Event.by_ne he ?_
    rintro rfl
    rcases hb with hb | rfl
    · exact hs hb
    · exact ha

theorem Handled.silent (h : k.Handled i) (h1 : OneSession k) : k.Joins i ∨ k.Silent T i := by
  obtain ⟨w, hw, -, ho | hj⟩ := h
  · exact .inr (silent_of_past ⟨h1, w, hw, ho⟩)
  · exact .inl hj

/-- A call to end the session is on its way: it has yet to empty the slot, was refused, or has seen
to all sessions that began before it. -/
def Sweeps (k : Keeper State Op) (c n : Nat) : Prop :=
  (∀ i < n, k.Handled i) ∨ ∃ p, k.calls[c]? = some p ∧
    (p.refused = true ∨ p.sweeps = true ∧ k.Tended n)

theorem Sweeps.move {a : Actor} (h : k.Sweeps c n) (h1 : OneSession k) (hm : Move T a k k') :
    k'.Sweeps c n := by
  have hcalls := Answers.move hm
  rcases h with hall | ⟨p, hc, hp | ⟨hp, ht⟩⟩
  · exact .inl fun i hi => (hall i hi).move hm
  · exact .inr ⟨p, hcalls.answered hc (CallPhase.answered_of_refused hp), .inl hp⟩
  have hbusy : ¬ k.Free := by
    intro hf
    have := CallPhase.busy_of_sweeps hp
    simp [hf.2 p (List.mem_of_getElem? hc)] at this
  have ht' := ht.move h1 hbusy hm
  rcases hcalls.calls with hsame | ⟨c', q, q', hq, hset, hgo⟩
  · exact .inr ⟨p, by rw [hsame, hc], .inr ⟨hp, ht'⟩⟩
  by_cases hcc : c' = c
  · subst hcc
    obtain rfl := Option.some.inj (hq.symm.trans hc)
    have hq' : k'.calls[c']? = some q' := by
      rw [hset, getElem?_set_self_of_eq_some hc]
    rcases hgo.swept hp with hs | hr | hnone
    · exact .inr ⟨q', hq', .inr ⟨hs, ht'⟩⟩
    · exact .inr ⟨q', hq', .inl hr⟩
    · exact .inl fun i hi => ht'.handled hnone hi
  · exact .inr ⟨p, by rw [hset, List.getElem?_set_ne hcc, hc], .inr ⟨hp, ht'⟩⟩

theorem Sweeps.befall {s : Step State} (h : k.Sweeps c n) (hb : Befalls k s k') :
    k'.Sweeps c n := by
  rcases h with hall | ⟨p, hc, hp⟩
  · exact .inl fun i hi => (hall i hi).befall hb
  refine .inr ⟨p, ?_, hp.imp id fun ⟨hp, ht⟩ => ⟨hp, ht.befall hb⟩⟩
  cases hb with
  | call r => exact getElem?_concat_eq_some.2 (.inl hc)
  | _ => exact hc

theorem Sweeps.run {ss : List (Step State)} (hr : Runs T k ss k') (h1 : OneSession k)
    (h : k.Sweeps c n) : k'.Sweeps c n :=
  (hr.keeps (P := fun k => OneSession k ∧ k.Sweeps c n)
    (fun hm h => ⟨h.1.move hm, h.2.move h.1 hm⟩) (fun hb h => ⟨h.1.befall hb, h.2.befall hb⟩)
    ⟨h1, h⟩).2

/-- From when a call to end the session has succeeded, another call waits for a session that began
before it, or the workers of that session will never do anything again. -/
theorem ended_of_run {config : LinkConfig} {transport : State} {installed : Bool}
    {k k₁ k₂ : Keeper State Op} {ss ss₁ ss₂ : List (Step State)} {r : CallRequest} {a : Answer}
    (h : Runs T (fresh config transport installed) ss k)
    (hr : r = .disconnect ∨ r = .cleanup) (h₁ : Runs T k (.call r :: ss₁) k₁)
    (ha : k₁.calls[k.calls.length]? = some (.answered a))
    (hok : ∀ o, a = .outcome o → o.success = true) (h₂ : Runs T k₁ ss₂ k₂) :
    ∀ i < k.watches.length, k₂.Joins i ∨ k₂.Silent T i := by
  intro i hi
  have h1 := OneSession.run h oneSession_fresh
  have haw := Awaited.run h oneSession_fresh .fresh
  rcases h₁ with _ | ⟨hn, h₁⟩
  obtain ⟨hheld, rfl⟩ := held_of_call hn
  have htended : k.Tended k.watches.length :=
    haw.tended fun hf => absurd hf.1 (by simp [hheld])
  have hcall : (k.call r).calls[k.calls.length]? = some (.opened r) := List.getElem?_concat_length
  have hsweep : (CallPhase.opened r : CallPhase Op).sweeps = true := by
    rcases hr with rfl | rfl <;> rfl
  have hone := h1.befall (.call r)
  have hk₁ := OneSession.run h₁ hone
  have hdone : ∀ i < k.watches.length, k₁.Handled i := by
    have hstart : (k.call r).Sweeps k.calls.length k.watches.length :=
      .inr ⟨_, hcall, .inr ⟨hsweep, htended.befall (.call r)⟩⟩
    rcases hstart.run h₁ hone with hall | ⟨p, hp, hrefused | ⟨hs, -⟩⟩
    · exact hall
    · obtain rfl := Option.some.inj (ha.symm.trans hp)
      rcases a with o | _ | l
      · simp [CallPhase.refused, hok o rfl] at hrefused
      · cases hrefused
      · cases hrefused
    · obtain rfl := Option.some.inj (ha.symm.trans hp)
      cases hs
  exact ((hdone i hi).run h₂).silent (.run h₂ hk₁)

theorem deeds_of_stopped {a : Actor} (hst : k.isStopped i = true) (hm : Move T a k k') :
    k'.deeds (Event.acts i) = k.deeds (Event.acts i) := by
  by_cases ha : a = .watch i
  · subst ha
    obtain ⟨w, hw, hws⟩ := isStopped_iff.1 hst
    have hself : ∀ {v}, k.watches[i]? = some v → v.stopped = false → False := by
      intro v hv hvs
      obtain rfl := Option.some.inj (hw.symm.trans hv)
      simp [hws] at hvs
    have hends : ∀ t : Turn State Op, (t.ends (.watch i)).filter (Event.acts i) = [] := by
      intro t
      unfold Turn.ends
      split
      · rfl
      · simp [Event.acts, Event.returns]
    cases hm with
    | sight hv hl hvs => exact (hself hv hvs).elim
    | ignore hv hl hvs => exact (hself hv hvs).elim
    | lose hv hl hvs => exact (hself hv hvs).elim
    | release hh hn hs =>
      simp
      rfl
    | _ => simp [hends]
  · exact deeds_of_move hm fun e he => by rw [Event.acts, Event.by_ne he ha, Bool.false_and]

def connectingSteps : List (Step Rehearsal.Stage) :=
  [.call (.connect none none), .resume (.call 0), .resume (.call 0), .resume (.watch 0)]

def endingSteps : List (Step Rehearsal.Stage) :=
  [.call .cleanup, .resume (.call 1), .resume (.call 1), .resume (.watch 0), .resume (.call 1)]

theorem ended_of_run_cleanup : ∃ k k₁,
    Runs Rehearsal.stage (fresh {} {} true) connectingSteps k ∧
    Runs Rehearsal.stage k endingSteps k₁ ∧ k.slot = some 0 ∧ k₁.Silent Rehearsal.stage 0 := by
  obtain ⟨k, k₁, hr, hr₁, hs, hn, hdone, hidle⟩ : ∃ k k₁,
      Runs Rehearsal.stage (fresh {} {} true) connectingSteps k ∧
      Runs Rehearsal.stage k endingSteps k₁ ∧ k.slot = some 0 ∧ k.watches.length = 1 ∧
      k₁.calls[k.calls.length]? = some (.answered .done) ∧ k₁.idle = true :=
    ⟨_, _, .cons rfl <| .cons rfl <| .cons rfl <| .cons rfl <| .nil _,
      .cons rfl <| .cons rfl <| .cons rfl <| .cons rfl <| .cons rfl <| .nil _, rfl, rfl, rfl, rfl⟩
  refine ⟨k, k₁, hr, hr₁, hs, ?_⟩
  rcases ended_of_run hr (.inr rfl) hr₁ hdone (by simp) (.nil k₁) 0 (by omega) with hj | hsilent
  · simp [hj.busy] at hidle
  · exact hsilent

/-- The connection is lost, and a call begins to end the session while an attempt to get it back
takes a while. -/
def overlapSteps : List (Step Rehearsal.Stage) :=
  lossSteps ++ [.call .disconnect, .resume (.call 1), .resume (.call 1)]

theorem ended_overlapping : ∃ k k₁ k₂,
    Runs Rehearsal.stage (fresh {} {} true) overlapSteps k ∧
    Runs Rehearsal.stage k [.call .cleanup, .resume (.call 2), .resume (.call 2)] k₁ ∧
    k₁.calls[k.calls.length]? = some (.answered .done) ∧
    Runs Rehearsal.stage k₁ [.pass 50, .resume (.episode 0)] k₂ ∧
    0 < k.watches.length ∧ k.Works 0 (.episode 0) ∧
    k₂.deeds (Event.by (.episode 0)) = k₁.deeds (Event.by (.episode 0)) ++
      [.returned (.episode 0) (.ok 0), .invoked (.episode 0) .disconnect,
        .returned (.episode 0) (.ok 0)] :=
  ⟨_, _, _, .cons rfl <| .cons rfl <| .cons rfl <| .cons rfl <| .cons rfl <| .cons rfl <|
    .cons rfl <| .cons rfl <| .cons rfl <| .cons rfl <| .cons rfl <| .nil _,
    .cons rfl <| .cons rfl <| .cons rfl <| .nil _, rfl, .cons rfl <| .cons rfl <| .nil _,
    by decide, ⟨_, rfl, rfl⟩, rfl⟩

/-- Once a session has begun, a call still waits for an earlier one, or the workers of that one will
never do anything again; its watch does no more than bring a pump to its end in any case. -/
theorem elder_of_run {config : LinkConfig} {transport : State} {installed : Bool}
    {k k' : Keeper State Op} {ss ss' : List (Step State)}
    (h : Runs T (fresh config transport installed) ss k) (hi : i + 1 < k.watches.length)
    (h' : Runs T k ss' k') :
    (k.Joins i ∨ k.Silent T i) ∧ k'.deeds (Event.acts i) = k.deeds (Event.acts i) := by
  have hhandled := (Awaited.run h oneSession_fresh .fresh).elder hi
  refine ⟨hhandled.silent (.run h oneSession_fresh), ?_⟩
  obtain ⟨w, hw, hst, -⟩ := hhandled
  exact (h'.keeps (P := fun k₁ => k₁.isStopped i = true ∧
      k₁.deeds (Event.acts i) = k.deeds (Event.acts i))
    (fun hm hp => ⟨(Later.move hm).stopped hp.1, (deeds_of_stopped hp.1 hm).trans hp.2⟩)
    (fun hb hp => ⟨(Later.befall hb).stopped hp.1, (deeds_of_befalls _ hb).trans hp.2⟩)
    ⟨isStopped_iff.2 ⟨w, hw, hst⟩, rfl⟩).2

theorem elder_of_run_again : ∃ k, Runs Rehearsal.stage (fresh {} {} true)
      (connectingSteps ++ endingSteps ++
        [.call (.connect none none), .resume (.call 2), .resume (.call 2)]) k ∧
    k.slot = some 1 ∧ k.Silent Rehearsal.stage 0 := by
  obtain ⟨k, hr, hs, hn, hidle⟩ : ∃ k, Runs Rehearsal.stage (fresh {} {} true)
        (connectingSteps ++ endingSteps ++
          [.call (.connect none none), .resume (.call 2), .resume (.call 2)]) k ∧
      k.slot = some 1 ∧ k.watches.length = 2 ∧ k.idle = true :=
    ⟨_, .cons rfl <| .cons rfl <| .cons rfl <| .cons rfl <| .cons rfl <| .cons rfl <|
      .cons rfl <| .cons rfl <| .cons rfl <| .cons rfl <| .cons rfl <| .cons rfl <| .nil _,
      rfl, rfl, rfl⟩
  refine ⟨k, hr, hs, ?_⟩
  rcases (elder_of_run hr (i := 0) (by omega) (.nil k)).1 with hj | hsilent
  · simp [hj.busy] at hidle
  · exact hsilent

/-- The first session ends while an attempt of its takes a while, a second session begins, and the
attempt then closes its link. -/
theorem elder_closes : ∃ k k',
    Runs Rehearsal.stage (fresh {} {} true)
      (overlapSteps ++ [.call .cleanup, .resume (.call 2), .resume (.call 2), .disturb {},
        .call (.connect none none), .resume (.call 3), .resume (.call 3)]) k ∧
    k.slot = some 1 ∧ k.state = .connected ∧ k.linkUp Rehearsal.stage = true ∧
    k.Works 0 (.episode 0) ∧
    Runs Rehearsal.stage k [.pass 50, .resume (.episode 0)] k' ∧
    k'.deeds (Event.by (.episode 0)) = k.deeds (Event.by (.episode 0)) ++
      [.returned (.episode 0) (.ok 0), .invoked (.episode 0) .disconnect,
        .returned (.episode 0) (.ok 0)] ∧
    k'.state = .connected ∧ k'.linkUp Rehearsal.stage = false :=
  ⟨_, _, .cons rfl <| .cons rfl <| .cons rfl <| .cons rfl <| .cons rfl <| .cons rfl <|
    .cons rfl <| .cons rfl <| .cons rfl <| .cons rfl <| .cons rfl <| .cons rfl <| .cons rfl <|
    .cons rfl <| .cons rfl <| .cons rfl <| .cons rfl <| .cons rfl <| .nil _,
    rfl, rfl, rfl, ⟨_, rfl, rfl⟩, .cons rfl <| .cons rfl <| .nil _, rfl, rfl, rfl⟩

end Keeper

end SessionKeeper

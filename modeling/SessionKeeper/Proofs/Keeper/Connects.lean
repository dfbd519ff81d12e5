import SessionKeeper.Proofs.Keeper.Holders

/-!
# What a connect call does

A connect call waits for the transport, and meanwhile anything may happen. It takes the connection
in one step, at which the transport has just brought the link up and no episode has the state
(`Takes`); every other step of it, but to have a session begin after that one, leaves the keeper as
it is (`Untouched`). So a call that fails has changed nothing, and none takes the state from an
episode that has it (`connects_of_run`). But where the end of an older session has taken the state
from an episode under way, a call takes the connection away from that too (`connect_supplants`).
-/

namespace SessionKeeper.Keeper

variable {State Op : Type} {T : Transport State Op} {k k' : Keeper State Op} {c : Nat}

section Steps

/-- State, endpoint, sessions and queue are left as they are. A keeper that nobody holds any more is
let go in the end, which empties the slot. -/
structure Untouched (k k' : Keeper State Op) : Prop where
  state : k'.state = k.state
  endpoint : k'.endpoint = k.endpoint
  sessions : k'.sessions = k.sessions
  queue : k'.queue = k.queue
  slot : k'.slot = k.slot ∨ k'.Free

theorem Untouched.refl (k : Keeper State Op) : Untouched k k := ⟨rfl, rfl, rfl, rfl, .inl rfl⟩

theorem Untouched.release (h : Untouched k k') : Untouched k (k'.release T) := by
  unfold Keeper.release
  split
  · exact h
  rename_i hh
  simp only [Bool.or_eq_true, not_or, Bool.not_eq_true] at hh
  split
  · exact h
  · rename_i i hi
    obtain ⟨s, hk⟩ := abortLastEpisode_eq T i ({ k' with slot := none }.raiseStop i)
    rw [hk, raiseStop_eq]
    refine ⟨h.state, h.endpoint, h.sessions, h.queue, .inr ⟨hh.1, ?_⟩⟩
    simpa [Option.isSome_iff_ne_none] using hh.2

/-- A connect call takes the connection to `target`: the transport has told it that it is connected
and the link up, and no episode has the state. -/
structure Takes (T : Transport State Op) (c : Nat) (target : Endpoint) (k k' : Keeper State Op) :
    Prop where
  free : k.state ≠ .reconnecting
  state : k'.state = .connected
  endpoint : k'.endpoint = some target
  sessions : k'.sessions = k.sessions
  queue : k'.queue = k.queue
  slot : k'.slot = k.slot
  deeds : k'.deeds (Event.by (.call c)) = [.invoked (.call c) (.connect target),
    .returned (.call c) (.ok StatusCode.ok), .stateSet (.call c) .connected]
  up : T.isUp k'.transport = .ok true

/-- A connect call that has not taken the connection, nor failed. -/
inductive Waits (c : Nat) (target : Endpoint) (k : Keeper State Op) : Prop
  | opened {host : Option String} {port : Option UInt16}
      (hc : k.calls[c]? = some (.opened (.connect host port)))
      (ht : k.config.requested host port = target) (hd : k.deeds (Event.by (.call c)) = [])
  | dialing {op : Op} (hc : k.calls[c]? = some (.dialing target op))
      (hd : k.deeds (Event.by (.call c)) = [.invoked (.call c) (.connect target)])

/-- What becomes of a connect call in one turn. -/
inductive Fate (T : Transport State Op) (c : Nat) (target : Endpoint) (k k' : Keeper State Op) :
    Prop
  | waits (hw : Waits c target k') (hu : Untouched k k')
  | refused (f : Failure) (hc : k'.calls[c]? = some (.answered (.outcome f.outcome)))
      (hu : Untouched k k')
  | taken (hc : k'.calls[c]? = some (.recorded target)) (ht : Takes T c target k k')

variable {target : Endpoint} {p : CallPhase Op}

theorem untouched_of_refuse (hc : k.calls[c]? = some p) (f : Failure) :
    (k.refuse T c f).calls[c]? = some (.answered (.outcome f.outcome)) ∧
      Untouched k (k.refuse T c f) := by
  unfold Keeper.refuse
  rw [reply_eq]
  refine ⟨?_, .release ⟨rfl, rfl, rfl, rfl, .inl rfl⟩⟩
  rw [calls_release]
  exact getElem?_set_self_of_eq_some hc

theorem Fate.dialCall {op : Op} (hc : k.calls[c]? = some p)
    (hd : k.deeds (Event.by (.call c)) = [.invoked (.call c) (.connect target)]) :
    Fate T c target k (k.dialCall T c target op) := by
  have hrefused : ∀ f, Fate T c target k ((k.absorb (.call c) (k.turn T op)).refuse T c f) := by
    intro f
    obtain ⟨hc', hu⟩ :=
      untouched_of_refuse (T := T) (k := k.absorb (.call c) (k.turn T op)) hc f
    exact .refused f hc' ⟨hu.state, hu.endpoint, hu.sessions, hu.queue, hu.slot⟩
  have hset : ∀ q, (k.calls.set c q)[c]? = some q :=
    fun q => getElem?_set_self_of_eq_some hc
  unfold Keeper.dialCall
  rw [operate_eq]
  rcases ht : (k.turn T op).progress with op' | f | code
  · have hd' : (k.absorb (.call c) (k.turn T op)).deeds (Event.by (.call c)) =
        [.invoked (.call c) (.connect target)] := by
      simpa [Turn.ends, ht] using hd
    exact .waits (.dialing (hset _) hd') ⟨rfl, rfl, rfl, rfl, .inl rfl⟩
  · exact hrefused _
  simp only []
  split
  · exact hrefused _
  rename_i hok
  simp only [ne_eq, not_not] at hok
  subst hok
  split
  · exact hrefused _
  · exact hrefused _
  rename_i hup
  unfold accept
  split
  · exact hrefused _
  rename_i hfree
  refine .taken (hset _) ⟨hfree, rfl, rfl, rfl, rfl, rfl, ?_, hup⟩
  have hd' : (k.absorb (.call c) (k.turn T op)).deeds (Event.by (.call c)) =
      [.invoked (.call c) (.connect target), .returned (.call c) (.ok StatusCode.ok)] := by
    simp [Turn.ends, ht, hd, Event.by]
  rw [deeds_setCall, deeds_setState]
  exact (congrArg (· ++ _) hd').trans (by simp [Event.by])

theorem Waits.resume (h : Waits c target k) : Fate T c target k (k.resume T (.call c)) := by
  cases h with
  | @opened host port hc ht hd =>
    subst ht
    simp only [Keeper.resume, resumeCall, hc, beginCall]
    split_ifs
    · obtain ⟨hc', hu⟩ := untouched_of_refuse (T := T) hc .noTransport
      exact .refused _ hc' hu
    · obtain ⟨hc', hu⟩ := untouched_of_refuse (T := T) hc .reconnecting
      exact .refused _ hc' hu
    · -- the transport is asked, and has its first turn at once
      have hd' : (k.record (.invoked (.call c) (.connect (k.config.requested host port)))).deeds
          (Event.by (.call c)) =
            [.invoked (.call c) (.connect (k.config.requested host port))] := by
        simp [hd, Event.by]
      cases Fate.dialCall (T := T) (k := k.record _) hc hd' with
      | waits hw hu => exact .waits hw ⟨hu.state, hu.endpoint, hu.sessions, hu.queue, hu.slot⟩
      | refused f hc' hu =>
        exact .refused f hc' ⟨hu.state, hu.endpoint, hu.sessions, hu.queue, hu.slot⟩
      | taken hc' ht =>
        exact .taken hc' ⟨ht.free, ht.state, ht.endpoint, ht.sessions, ht.queue, ht.slot, ht.deeds,
          ht.up⟩
  | dialing hc hd =>
    simp only [Keeper.resume, resumeCall, hc]
    exact .dialCall hc hd

/-- Others leave a call where it is. -/
theorem kept_of_others {s : Step State} (hn : k.next? T s = some k') (hs : s ≠ .resume (.call c))
    (hc : k.calls[c]? = some p) :
    k'.calls[c]? = some p ∧
      k'.deeds (Event.by (.call c)) = k.deeds (Event.by (.call c)) := by
  have hmoves : ∀ {a k₁ k₂}, a ≠ .call c → Relation.ReflTransGen (Move T a) k₁ k₂ →
      k₂.calls[c]? = k₁.calls[c]? ∧
        k₂.deeds (Event.by (.call c)) = k₁.deeds (Event.by (.call c)) := by
    intro a k₁ k₂ ha hm
    refine moves_keep (P := fun k => k.calls[c]? = k₁.calls[c]? ∧
      k.deeds (Event.by (.call c)) = k₁.deeds (Event.by (.call c))) (fun hm h => ?_) hm ⟨rfl, rfl⟩
    exact ⟨(calls_of_others hm ha).trans h.1,
      (deeds_of_move hm fun e he => Event.by_ne he ha).trans h.2⟩
  rcases next?_cases hn with ⟨a, rfl, hr, rfl⟩ | ⟨k₁, hb, hk⟩
  · obtain ⟨hcalls, hdeeds⟩ := hmoves (by simpa using hs) (resume_moves hr)
    exact ⟨hcalls.trans hc, hdeeds⟩
  · have hdeeds := deeds_of_befalls (Event.by (.call c)) hb
    have hc₁ : k₁.calls[c]? = some p := by
      cases hb with
      | call r => exact getElem?_concat_eq_some.2 (.inl hc)
      | _ => exact hc
    rcases hk with rfl | rfl
    · exact ⟨hc₁, hdeeds⟩
    · obtain ⟨hcalls, hdeeds'⟩ := hmoves (a := .watch 0) (by simp) (release_moves _ k₁)
      exact ⟨hcalls.trans hc₁, hdeeds'.trans hdeeds⟩

theorem Waits.others {s : Step State} (h : Waits c target k) (hn : k.next? T s = some k')
    (hs : s ≠ .resume (.call c)) : Waits c target k' := by
  cases h with
  | opened hc ht hd =>
    obtain ⟨hc', hd'⟩ := kept_of_others hn hs hc
    exact .opened hc' (by rw [(Later.next hn).config, ht]) (hd'.trans hd)
  | dialing hc hd =>
    obtain ⟨hc', hd'⟩ := kept_of_others hn hs hc
    exact .dialing hc' (hd'.trans hd)

end Steps

section Runs

variable {target : Endpoint}

theorem not_ready_of_answered {a : Answer} (hc : k.calls[c]? = some (.answered a)) :
    k.ready T (.call c) = false := by
  simp [ready, hc, callReady]

/-- A call that has answered does not go on. -/
theorem ne_resume_of_answered {s : Step State} {a : Answer}
    (hc : k.calls[c]? = some (.answered a)) (hn : k.next? T s = some k') :
    s ≠ .resume (.call c) := by
  rintro rfl
  simp [next?, not_ready_of_answered hc] at hn

/-- Turns of a call leave the keeper untouched. -/
def Touchless (T : Transport State Op) (c : Nat) (k : Keeper State Op) (s : Step State) : Prop :=
  s = .resume (.call c) → Untouched k (k.resume T (.call c))

theorem touchless_of_answered {ss : List (Step State)} {a : Answer} (hr : Runs T k ss k')
    (hc : k.calls[c]? = some (.answered a)) :
    RunsUnder T (Touchless T c) k ss k' ∧ k'.calls[c]? = some (.answered a) := by
  induction hr with
  | nil k => exact ⟨.nil k, hc⟩
  | cons hn _ ih =>
    have hs := ne_resume_of_answered hc hn
    obtain ⟨hrest, hc'⟩ := ih (kept_of_others hn hs hc).1
    exact ⟨.cons (fun h => absurd h hs) hn hrest, hc'⟩

/-- A call that has taken the connection, and may have answered since. -/
def Took (c : Nat) (target : Endpoint) (k : Keeper State Op) : Prop :=
  k.calls[c]? = some (.recorded target) ∨
    k.calls[c]? = some (.answered (.outcome (Outcome.done "Connected")))

theorem resume_of_recorded (hc : k.calls[c]? = some (.recorded target)) :
    (k.resume T (.call c)).calls[c]? = some (.answered (.outcome (Outcome.done "Connected"))) ∧
      (k.resume T (.call c)).state = k.state ∧ (k.resume T (.call c)).endpoint = k.endpoint := by
  have hensure : k.ensureWatch.calls = k.calls ∧ k.ensureWatch.state = k.state ∧
      k.ensureWatch.endpoint = k.endpoint := by
    unfold Keeper.ensureWatch
    split <;> exact ⟨rfl, rfl, rfl⟩
  simp only [Keeper.resume, resumeCall, hc, reply_eq]
  have hrelease := fun k : Keeper State Op => (Untouched.refl k).release (T := T)
  refine ⟨?_, (hrelease _).state.trans hensure.2.1, (hrelease _).endpoint.trans hensure.2.2⟩
  rw [calls_release]
  refine List.getElem?_set_self ?_
  simp only [log, record, hensure.1]
  exact (List.getElem?_eq_some_iff.1 hc).1

theorem Took.next {s : Step State} (h : Took c target k) (hn : k.next? T s = some k') :
    Took c target k' := by
  by_cases hs : s = .resume (.call c)
  · subst hs
    rcases h with hc | hc
    · obtain ⟨-, rfl⟩ := ready_of_resume hn
      exact .inr (resume_of_recorded hc).1
    · exact absurd rfl (ne_resume_of_answered hc hn)
  · exact h.imp (fun hc => (kept_of_others hn hs hc).1) fun hc => (kept_of_others hn hs hc).1

/-- What a connect call does in a run: it touches nothing, or takes the connection at one step. -/
inductive Proceeds (T : Transport State Op) (c : Nat) (target : Endpoint) :
    Keeper State Op → List (Step State) → Keeper State Op → Prop
  | untouched {k k' ss} (h : RunsUnder T (Touchless T c) k ss k')
      (hend : Waits c target k' ∨
        ∃ f : Failure, k'.calls[c]? = some (.answered (.outcome f.outcome))) :
      Proceeds T c target k ss k'
  | taken {k k₁ k₂ k' ss₁ ss₂} (h₁ : RunsUnder T (Touchless T c) k ss₁ k₁)
      (hw : Waits c target k₁) (hn : k₁.next? T (.resume (.call c)) = some k₂)
      (ht : Takes T c target k₁ k₂) (hc : Took c target k₂) (h₂ : Runs T k₂ ss₂ k') :
      Proceeds T c target k (ss₁ ++ .resume (.call c) :: ss₂) k'

theorem Proceeds.cons {k₁ : Keeper State Op} {s : Step State} {ss : List (Step State)}
    (hs : Touchless T c k s) (hn : k.next? T s = some k₁) (h : Proceeds T c target k₁ ss k') :
    Proceeds T c target k (s :: ss) k' := by
  cases h with
  | untouched h hend => exact .untouched (.cons hs hn h) hend
  | taken h₁ hw hn' ht hc h₂ => exact .taken (.cons hs hn h₁) hw hn' ht hc h₂

theorem Waits.run {ss : List (Step State)} (hr : Runs T k ss k') (h : Waits c target k) :
    Proceeds T c target k ss k' := by
  induction hr with
  | nil k => exact .untouched (.nil k) (.inl h)
  | @cons k k₁ k' s ss hn hr ih =>
    by_cases hs : s = .resume (.call c)
    · subst hs
      have hk₁ := (ready_of_resume hn).2
      have hfate := h.resume (T := T)
      rw [← hk₁] at hfate
      cases hfate with
      | waits hw hu => exact .cons (fun _ => hk₁ ▸ hu) hn (ih hw)
      | refused f hc hu =>
        obtain ⟨hrest, hc'⟩ := touchless_of_answered hr hc
        exact .untouched (.cons (fun _ => hk₁ ▸ hu) hn hrest) (.inr ⟨f, hc'⟩)
      | taken hc ht => exact .taken (.nil k) h hn ht (.inl hc) hr
    · exact .cons (fun h => absurd h hs) hn (ih (h.others hn hs))

/-- Turns of a call leave the state to an episode that has it, and the endpoint. -/
def Yields (T : Transport State Op) (c : Nat) (k : Keeper State Op) (s : Step State) : Prop :=
  s = .resume (.call c) → k.state = .reconnecting →
    (k.resume T (.call c)).state = .reconnecting ∧
      (k.resume T (.call c)).endpoint = k.endpoint

theorem Took.run {ss : List (Step State)} (h : Took c target k) (hr : Runs T k ss k') :
    Took c target k' :=
  hr.under.keeps (fun _ hn h => Took.next h hn) h

theorem Took.yields {ss : List (Step State)} (hr : Runs T k ss k') (h : Took c target k) :
    RunsUnder T (Yields T c) k ss k' := by
  induction hr with
  | nil k => exact .nil k
  | cons hn _ ih =>
    refine .cons ?_ hn (ih (h.next hn))
    rintro rfl hs
    rcases h with hc | hc
    · obtain ⟨-, hstate, hend⟩ := resume_of_recorded (T := T) hc
      exact ⟨hstate.trans hs, hend⟩
    · exact absurd rfl (ne_resume_of_answered hc hn)

theorem Proceeds.yields {ss : List (Step State)} (h : Proceeds T c target k ss k') :
    RunsUnder T (Yields T c) k ss k' := by
  have himp : ∀ {k : Keeper State Op} {s}, Touchless T c k s → Yields T c k s :=
    fun h hs hst => ⟨(h hs).state.trans hst, (h hs).endpoint⟩
  cases h with
  | untouched h hend => exact h.imp himp
  | taken h₁ hw hn ht hc h₂ =>
    exact (h₁.imp himp).append (.cons (fun _ hst => absurd hst ht.free) hn (hc.yields h₂))

/-- Without a call that ends a session, an episode under way has the state. -/
theorem InOrder.not_reconnects (h : InOrder k) (h1 : OneSession k) (hw : Waits c target k)
    (hs : k.state ≠ .reconnecting) : ¬ k.Reconnects := by
  rintro ⟨j, e, he, hlive⟩
  obtain ⟨w, hw', -, -, ho⟩ := h1.owned he hlive
  rcases hst : w.stopped with _ | _
  · exact hs ((h.reconnecting (h1.unstopped hw' hst) hw').2 (.inr ⟨j, e, he, hlive⟩))
  · obtain ⟨c', ending, d, hj⟩ := h.stopping hw' ho hst
    cases hw with
    | opened hc =>
      obtain rfl := h.call_unique hc rfl hj rfl
      cases hc.symm.trans hj
    | dialing hc =>
      obtain rfl := h.call_unique hc rfl hj rfl
      cases hc.symm.trans hj

end Runs

/-- A connect call that has failed left the keeper untouched in all its turns. One that has
succeeded took the connection at one step. If an episode of a session that was not stopped was under
way then, the state had been taken from that session before; and where calls are made one after
another there was none. And a connect call never took the state from an episode. -/
theorem connects_of_run {config : LinkConfig} {transport : State} {installed : Bool}
    {k k' : Keeper State Op} {ss ss' : List (Step State)} {host : Option String}
    {port : Option UInt16}
    (h : Runs T (fresh config transport installed) ss k)
    (h' : Runs T k (.call (.connect host port) :: ss') k') :
    (∀ o, k'.calls[k.calls.length]? = some (.answered (.outcome o)) → o.success = false →
      RunsUnder T (Touchless T k.calls.length) (k.call (.connect host port)) ss' k') ∧
    (∀ o, k'.calls[k.calls.length]? = some (.answered (.outcome o)) → o.success = true →
      ∃ ss₁ k₁ k₂ ss₂, ss' = ss₁ ++ .resume (.call k.calls.length) :: ss₂ ∧
        Runs T (k.call (.connect host port)) ss₁ k₁ ∧
        k₁.next? T (.resume (.call k.calls.length)) = some k₂ ∧ Runs T k₂ ss₂ k' ∧
        Takes T k.calls.length (config.requested host port) k₁ k₂ ∧
        (∀ i, k₁.isStopped i = false → k₁.Strives i → k₁.Lowered i) ∧
        (RunsUnder T InTurn (fresh config transport installed)
          (ss ++ .call (.connect host port) :: ss₁) k₁ → ¬ k₁.Reconnects)) ∧
    RunsUnder T (Yields T k.calls.length) (k.call (.connect host port)) ss' k' := by
  rcases h' with _ | ⟨hcall, h'⟩
  obtain ⟨-, rfl⟩ := held_of_call hcall
  have hcfg : k.config = config := (Later.run h).config
  have hwaits : Waits k.calls.length (config.requested host port)
      (k.call (.connect host port)) := by
    refine .opened List.getElem?_concat_length (by rw [← hcfg]; rfl) ?_
    exact (deeds_of_befalls _ (.call _)).trans
      (deeds_of_unmade h (fun _ _ => rfl) _ (Nat.le_refl _))
  have hproceeds := hwaits.run h'
  refine ⟨fun o ho hfail => ?_, fun o ho hok => ?_, hproceeds.yields⟩
  · cases hproceeds with
    | untouched h hend => exact h
    | taken h₁ hw hn ht hc h₂ =>
      rcases hc.run h₂ with hc | hc
      · cases ho.symm.trans hc
      · cases ho.symm.trans hc
        cases hfail
  · cases hproceeds with
    | untouched _ hend =>
      rcases hend with hw | ⟨f, hc⟩
      · cases hw with
        | opened hc => cases ho.symm.trans hc
        | dialing hc => cases ho.symm.trans hc
      · cases ho.symm.trans hc
        cases hok
    | taken h₁ hw hn ht hc h₂ =>
      have hall := h.under.append (.cons trivial hcall h₁.runs.under)
      refine ⟨_, _, _, _, rfl, h₁.runs, hn, h₂, ht, fun i => lowered_of_run hall.runs ht.free,
        fun hturn => ?_⟩
      obtain ⟨h1, horder⟩ := InOrder.run hturn oneSession_fresh .fresh
      exact horder.not_reconnects h1 hw ht.free

/-- While a second call to connect waits for the transport, the watch sees the link go down. -/
def meanwhileSteps : List (Step Rehearsal.Stage) :=
  [.resume (.call 1), .disturb {}, .pass 10, .resume (.watch 0), .pass 40, .resume (.call 1)]

theorem connects_of_run_meanwhile : ∃ k k',
    Runs Rehearsal.stage (fresh {} {} true)
      (connectingSteps ++ [.disturb { up := true, connectDelay := 50 }]) k ∧
    (∃ k₁ k₂, Takes Rehearsal.stage 0 ({} : LinkConfig).endpoint k₁ k₂) ∧
    Runs Rehearsal.stage k (.call (.connect none none) :: meanwhileSteps) k' ∧
    k'.state = .reconnecting ∧
    RunsUnder Rehearsal.stage (Touchless Rehearsal.stage k.calls.length)
      (k.call (.connect none none)) meanwhileSteps k' := by
  obtain ⟨k, k', hr₀, hc₀, hr, hr', hc, hs⟩ : ∃ k k',
      Runs Rehearsal.stage (fresh {} {} true) connectingSteps k ∧
      k.calls[0]? = some (.answered (.outcome (Outcome.done "Connected"))) ∧
      Runs Rehearsal.stage (fresh {} {} true)
        (connectingSteps ++ [.disturb { up := true, connectDelay := 50 }])
        { k with transport := { up := true, connectDelay := 50 } } ∧
      Runs Rehearsal.stage { k with transport := { up := true, connectDelay := 50 } }
        (.call (.connect none none) :: meanwhileSteps) k' ∧
      k'.calls[k.calls.length]? = some (.answered (.outcome Failure.reconnecting.outcome)) ∧
      k'.state = .reconnecting :=
    ⟨_, _, .cons rfl <| .cons rfl <| .cons rfl <| .cons rfl <| .nil _, rfl,
      .cons rfl <| .cons rfl <| .cons rfl <| .cons rfl <| .cons rfl <| .nil _,
      .cons rfl <| .cons rfl <| .cons rfl <| .cons rfl <| .cons rfl <| .cons rfl <| .cons rfl <|
      .nil _, rfl, rfl⟩
  obtain ⟨-, htaken, -⟩ := connects_of_run (.nil _) hr₀
  obtain ⟨-, k₁, k₂, -, -, -, -, -, ht, -, -⟩ := htaken _ hc₀ rfl
  exact ⟨_, k', hr, ⟨k₁, k₂, ht⟩, hr', hs, (connects_of_run hr hr').1 _ hc rfl⟩

/-- A second session begins while a call still waits for the first to end, and loses its link. -/
def supplantSteps : List (Step Rehearsal.Stage) :=
  overlapSteps ++ [.call .cleanup, .resume (.call 2), .resume (.call 2), .disturb {},
    .call (.connect none none), .resume (.call 3), .resume (.call 3), .resume (.watch 1),
    .disturb { connectDelay := 5000 }, .pass 10, .resume (.watch 1), .resume (.episode 1), .pass 40]

/-- The first session has ended, and the call that waited for that sets the state. -/
def staleSteps : List (Step Rehearsal.Stage) :=
  [.resume (.episode 0), .resume (.watch 0), .resume (.watch 0), .resume (.call 1), .disturb {}]

/-- Reconnecting is under way in a session that nobody has stopped, and a call that connects to
another endpoint is answered that it is connected. -/
theorem connect_supplants : ∃ k k' k'',
    Runs Rehearsal.stage (fresh {} {} true) supplantSteps k ∧
    k.state = .reconnecting ∧ k.Strives 1 ∧ k.isStopped 1 = false ∧
    Runs Rehearsal.stage k staleSteps k' ∧
    Runs Rehearsal.stage k' [.call (.connect (some "10.0.0.9") (some 9999)), .resume (.call 4),
      .resume (.call 4)] k'' ∧
    k''.calls[4]? = some (.answered (.outcome (Outcome.done "Connected"))) ∧
    k''.state = .connected ∧ k''.endpoint = some { host := "10.0.0.9", port := 9999 } ∧
    k''.Strives 1 ∧ k''.isStopped 1 = false :=
  ⟨_, _, _, .cons rfl <| .cons rfl <| .cons rfl <| .cons rfl <| .cons rfl <| .cons rfl <|
    .cons rfl <| .cons rfl <| .cons rfl <| .cons rfl <| .cons rfl <| .cons rfl <| .cons rfl <|
    .cons rfl <| .cons rfl <| .cons rfl <| .cons rfl <| .cons rfl <| .cons rfl <| .cons rfl <|
    .cons rfl <| .cons rfl <| .cons rfl <| .cons rfl <| .nil _,
    rfl, ⟨1, _, rfl, rfl, rfl⟩, rfl,
    .cons rfl <| .cons rfl <| .cons rfl <| .cons rfl <| .cons rfl <| .nil _,
    .cons rfl <| .cons rfl <| .cons rfl <| .nil _, rfl, rfl, rfl, ⟨1, _, rfl, rfl, rfl⟩, rfl⟩

end SessionKeeper.Keeper

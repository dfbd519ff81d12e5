import SessionKeeper.Proofs.Keeper.Cleanups
import SessionKeeper.Proofs.Keeper.InTurn

/-!
# What a call to disconnect answers

A call to disconnect goes by the state: it is refused unless that is connected or reconnecting.
When calls do not overlap, those are the states with a session, but for one: an episode that has
run out of time leaves the state failed and its session running. So a call that is refused finds no
session, or one that has given up and goes on all the same (`disconnect_refused`). A call that is
not refused leads through the same turns as one to clean up (`Departs.run`) and finds all sessions
over when it answers (`Concludes.run`). `disconnect_of_run` says all of this.
-/

namespace SessionKeeper

variable {State Op : Type}

/-- A call that a keeper without a transport may have. -/
def CallPhase.bare : CallPhase Op → Bool
  | opened _ | claiming .cleanup | answered _ => true
  | _ => false

/-- Nobody makes a call, and the owner keeps the keeper. -/
def Step.Bides : Step State → Prop
  | call _ | drop => False
  | resume _ | pass _ | disturb _ => True

namespace Keeper

variable {T : Transport State Op} {k k' : Keeper State Op} {a : Actor} {c : Nat}

section Bare

/-- Without a transport nothing ever begins. -/
structure Bare (k : Keeper State Op) : Prop where
  installed : k.installed = false
  watches : k.watches = []
  episodes : k.episodes = []
  slot : k.slot = none
  state : k.state = .disconnected
  calls : ∀ {c : Nat} {p : CallPhase Op}, k.calls[c]? = some p → p.bare = true

namespace Bare

theorem of_setCall {p : CallPhase Op} (h : Bare k) (hp : p.bare = true)
    (hc : k'.calls = k.calls.set c p) (hi : k'.installed = k.installed)
    (hw : k'.watches = k.watches) (he : k'.episodes = k.episodes) (hs : k'.slot = k.slot)
    (hst : k'.state = k.state) : Bare k' := by
  refine ⟨hi.trans h.installed, hw.trans h.watches, he.trans h.episodes, hs.trans h.slot,
    hst.trans h.state, fun {c' q} hq => ?_⟩
  rw [hc] at hq
  rcases getElem?_set_eq_some hq with ⟨-, rfl⟩ | ⟨-, hq⟩
  · exact hp
  · exact h.calls hq

theorem move (h : Bare k) (hm : Move T a k k') : Bare k' := by
  have hcall : ∀ {c : Nat} {p : CallPhase Op}, k.calls[c]? = some p → p.bare = false → False :=
    fun hc hl => by simp [h.calls hc] at hl
  rcases a with i | j | c
  case call =>
    cases hm with
    | say ls => exact ⟨h.installed, h.watches, h.episodes, h.slot, h.state, h.calls⟩
    | dial hc hi => simp [h.installed] at hi
    | send hc hi => simp [h.installed] at hi
    | claim hc hr =>
      rcases hr with ⟨-, -, hi, -⟩ | ⟨rfl, rfl⟩
      · simp [h.installed] at hi
      · exact h.of_setCall rfl rfl rfl rfl rfl rfl rfl
    | refuse ls hc hf => exact h.of_setCall rfl rfl rfl rfl rfl rfl rfl
    | messages hc => exact h.of_setCall rfl rfl rfl rfl rfl rfl rfl
    | join hc hs => simp [h.slot] at hs
    | release hh hn hs => simp [h.slot] at hs
    | @close _ _ ending hcl hu =>
      rcases hcl with ⟨hc, -⟩ | ⟨i, d, hc, -⟩
      · cases ending with
        | disconnect => exact (hcall hc rfl).elim
        | cleanup => simp [isConnected, h.installed] at hu
      · exact (hcall hc rfl).elim
    | skip hcl hu =>
      rw [lower, if_pos h.state]
      exact h.of_setCall rfl rfl rfl rfl rfl rfl rfl
    | _ => exact (hcall ‹_› rfl).elim
  all_goals
    cases Acts.move hm with
    | tells ls hk => exact hk ▸ ⟨h.installed, h.watches, h.episodes, h.slot, h.state, h.calls⟩
    | frees hs => simp [h.slot] at hs
    | lives hl => simp [Lives, h.watches, h.episodes] at hl

theorem befall {s : Step State} (h : Bare k) (hb : Befalls k s k') : Bare k' := by
  cases hb with
  | call r =>
    refine ⟨h.installed, h.watches, h.episodes, h.slot, h.state, fun {c p} hc => ?_⟩
    rcases getElem?_concat_eq_some.1 hc with hc | ⟨-, rfl⟩
    · exact h.calls hc
    · rfl
  | _ => exact ⟨h.installed, h.watches, h.episodes, h.slot, h.state, h.calls⟩

end Bare

/-- Only a keeper with a transport is ever in another state than disconnected. -/
theorem installed_of_state {config : LinkConfig} {transport : State} {installed : Bool}
    {ss : List (Step State)} (h : Runs T (fresh config transport installed) ss k)
    (hst : k.state ≠ .disconnected) : k.installed = true := by
  cases installed with
  | false =>
    have hbare : Bare k := h.keeps (fun hm hb => hb.move hm) (fun hb h => h.befall hb)
      ⟨rfl, rfl, rfl, rfl, rfl, by simp [fresh]⟩
    exact (hst hbare.state).elim
  | true =>
    refine h.keeps (P := fun k => k.installed = true)
      (fun hm hi => (fixed_of_move hm).2.trans hi) (fun hb hi => ?_) rfl
    cases hb <;> exact hi

end Bare

section Departs

variable {p : CallPhase Op}

/-- How far a call to disconnect has come that was not refused. -/
inductive Departs (T : Transport State Op) (k : Keeper State Op) : CallPhase Op → Prop
  | claiming : Departs T k (.claiming .disconnect)
  | joining {i d : Nat} (hd : d ≤ k.now + k.config.joinTimeout) :
      Departs T k (.joining .disconnect i d)
  | closing {op : Op} (hop : T.Carries .disconnect op) : Departs T k (.closing .disconnect op)
  | answered : Departs T k (.answered Ending.disconnect.answer)

/-- What a turn of a call to disconnect that waits at a phase comes to: it is answered, has fewer
turns left, or the turn was the transport's. -/
inductive Nears (T : Transport State Op) (k : Keeper State Op) :
    CallPhase Op → CallPhase Op → Prop
  | answers {p : CallPhase Op} : Nears T k p (.answered Ending.disconnect.answer)
  | goes {p p' : CallPhase Op} (h : p'.turnsLeft < p.turnsLeft) : Nears T k p p'
  | waits {op op' : Op} (ht : (k.turn T op).progress = .pending op') :
      Nears T k (.closing .disconnect op) (.closing .disconnect op')

namespace Departs

theorem later (h : Departs T k p) (hnow : k.now ≤ k'.now) (hconfig : k'.config = k.config) :
    Departs T k' p := by
  cases h with
  | claiming => exact .claiming
  | joining hd => exact .joining (hconfig ▸ Nat.le_trans hd (Nat.add_le_add_right hnow _))
  | closing hop => exact .closing hop
  | answered => exact .answered

/-- The call can go on, or waits for the watch and for no longer than the join timeout, or waits
for the transport. -/
theorem callReady (h : Departs T k p) (hp : p.answer? = none) : k.callReady T p = true ∨
    (∃ i d, p = .joining .disconnect i d ∧ k.now < d ∧ d ≤ k.now + k.config.joinTimeout) ∨
    ∃ op, p = .closing .disconnect op ∧ T.Carries .disconnect op ∧
      T.ready op k.now k.transport = false := by
  cases h with
  | claiming => exact .inl rfl
  | @joining i d hd =>
    rcases Nat.lt_or_ge k.now d with hlt | hge
    · exact .inr (.inl ⟨i, d, rfl, hlt, hd⟩)
    · exact .inl (by simp [Keeper.callReady, hge])
  | @closing op hop =>
    rcases hready : T.ready op k.now k.transport with _ | _
    · exact .inr (.inr ⟨op, rfl, hop, hready⟩)
    · exact .inl hready
  | answered => cases hp

/-- The call has only the transport left to close. -/
theorem closeTransport {k₁ : Keeper State Op} (hc : k.calls[c]? = some p) (hp : 0 < p.turnsLeft)
    (hcalls : k₁.calls = k.calls) :
    ∃ p', (k₁.closeTransport T c .disconnect).calls[c]? = some p' ∧ Departs T k' p' ∧
      Nears T k p p' := by
  rcases closeTransport_cases (T := T) .disconnect (hcalls ▸ hc) with ⟨op, hop, hc', -⟩ | hc'
  · exact ⟨_, hc', .closing hop, .goes hp⟩
  · exact ⟨_, hc', .answered, .answers⟩

theorem resume (h : Departs T k p) (hc : k.calls[c]? = some p) (hp : p.answer? = none) :
    ∃ p', (k.resume T (.call c)).calls[c]? = some p' ∧ Departs T k p' ∧ Nears T k p p' := by
  cases h with
  | claiming =>
    simp only [Keeper.resume, resumeCall, hc, claim]
    split
    · exact closeTransport hc (Nat.succ_pos 1) rfl
    · rename_i i hs
      have hc' : ({ k with slot := none }.raiseStop i).calls[c]? =
          some (.claiming .disconnect) := by
        rw [raiseStop_eq]
        exact hc
      exact ⟨_, getElem?_setCall hc' _, .joining (Nat.add_le_add_left (Nat.min_le_left _ _) _),
        .goes (Nat.lt_succ_self 1)⟩
  | @joining i d hd =>
    have hlast : ∀ k₁ : Keeper State Op, k₁.calls = k.calls →
        (k₁.abortLastEpisode T i).calls = k.calls := by
      intro k₁ hcalls
      obtain ⟨s, hs⟩ := abortLastEpisode_eq T i k₁
      rw [hs]
      exact hcalls
    simp only [Keeper.resume, resumeCall, hc, joined]
    refine closeTransport hc (Nat.succ_pos 0) (hlast _ ?_)
    split
    · rfl
    · obtain ⟨s, hs⟩ := abortWatch_eq T i (k.log .warn .keeper _)
      rw [hs]
      rfl
  | @closing op hop =>
    simp only [Keeper.resume, resumeCall, hc]
    rcases closeCall_cases (T := T) .disconnect op hc with ⟨op', ht, hk⟩ | hc'
    · rw [hk]
      exact ⟨_, getElem?_setCall (k := k.absorb _ _) hc _, .closing (.pending hop ht), .waits ht⟩
    · exact ⟨_, hc', .answered, .answers⟩
  | answered => cases hp

theorem next {s : Step State} (h : Departs T k p) (hc : k.calls[c]? = some p)
    (hn : k.next? T s = some k') : ∃ p', k'.calls[c]? = some p' ∧ Departs T k' p' := by
  have hl := Later.next hn
  rcases Bides.next hn (List.getElem?_eq_some_iff.1 hc).1 with ⟨ms, -, rfl⟩ | ⟨rfl, rfl⟩ | hb
  · exact ⟨p, hc, h.later hl.now hl.config⟩
  · obtain ⟨hr, -⟩ := ready_of_resume hn
    have hopen : p.answer? = none := by
      cases p <;> first | rfl | simp [ready, hc, Keeper.callReady] at hr
    obtain ⟨p', hc', h', -⟩ := h.resume hc hopen
    exact ⟨p', hc', h'.later hl.now hl.config⟩
  · exact ⟨p, hb.call.trans hc, h.later hl.now hl.config⟩

theorem run {ss : List (Step State)} (hr : Runs T k ss k') (hc : k.calls[c]? = some p)
    (h : Departs T k p) : ∃ p', k'.calls[c]? = some p' ∧ Departs T k' p' := by
  induction hr generalizing p with
  | nil k => exact ⟨p, hc, h⟩
  | cons hn _ ih =>
    obtain ⟨p₁, hc₁, h₁⟩ := h.next hc hn
    exact ih hc₁ h₁

end Departs

end Departs

section Concludes

variable {ending : Ending}

/-- A call that ends the session is under way, or was refused, or all is over. -/
inductive Concludes (T : Transport State Op) (c : Nat) (ending : Ending) (k : Keeper State Op) :
    Prop
  | winds (h : Winds T c ending k)
  | refused {o : Outcome} (hc : k.calls[c]? = some (.answered (.outcome o)))
      (ho : o.success = false)
  | spent (h : Spent k)

namespace Concludes

theorem move (hm : Move T a k k') (hk : Alone c k) (h : Concludes T c ending k) :
    Concludes T c ending k' := by
  cases h with
  | winds hw =>
    rcases hw.go hk hm with hw' | hp
    · exact .winds hw'
    · rcases hp.refused_or_spent (hk.move hm) with ⟨-, o, hc, ho⟩ | hs
      · exact .refused hc ho
      · exact .spent hs
  | refused hc ho => exact .refused ((Answers.move hm).answered hc rfl) ho
  | spent hs => exact .spent (hs.move hm)

theorem befall {s : Step State} (hs : ∀ r, s ≠ .call r) (hb : Befalls k s k')
    (h : Concludes T c ending k) : Concludes T c ending k' := by
  cases h with
  | winds hw =>
    have hsame := deeds_of_befalls (Event.by (.call c)) hb
    cases hb with
    | call r => exact (hs r rfl).elim
    | _ => exact .winds (hw.of_same rfl rfl hsame)
  | refused hc ho =>
    cases hb with
    | call r => exact (hs r rfl).elim
    | _ => exact .refused hc ho
  | spent h => exact .spent (h.befall hs hb)

theorem run {ss : List (Step State)} (hr : RunsUnder T (fun _ s => s.Bides) k ss k')
    (hk : Alone c k) (h : Concludes T c ending k) : Alone c k' ∧ Concludes T c ending k' := by
  refine hr.keeps (P := fun k => Alone c k ∧ Concludes T c ending k) (fun {k₁ k₂ s} hs hn h => ?_)
    ⟨hk, h⟩
  have hcall : ∀ r, s ≠ .call r := by
    rintro r rfl
    exact hs
  exact next?_keeps (P := fun k => Alone c k ∧ Concludes T c ending k)
    (fun hm h => ⟨h.1.move hm, h.2.move hm h.1⟩)
    (fun _ hb => ⟨h.1.befall hcall hb, h.2.befall hcall hb⟩) hn h

/-- A call that has answered with success leaves no session. -/
theorem ended {answer : Answer} (h : Concludes T c ending k)
    (hc : k.calls[c]? = some (.answered answer))
    (hok : ∀ o, answer = .outcome o → o.success = true) : Spent k := by
  cases h with
  | winds hw =>
    obtain ⟨p, hp, hlive⟩ := hw.lives
    obtain rfl := Option.some.inj (hc.symm.trans hp)
    cases hlive
  | refused hc' ho =>
    obtain rfl := CallPhase.answered.inj (Option.some.inj (hc.symm.trans hc'))
    simp [hok _ rfl] at ho
  | spent hs => exact hs

end Concludes

end Concludes

section Idle

/-- While no call is under way the calls and the slot stay as they are. -/
theorem slot_of_bides {ss : List (Step State)} (hr : RunsUnder T (fun _ s => s.Bides) k ss k')
    (hheld : k.held = true) (hidle : k.idle = true) : k'.calls = k.calls ∧ k'.slot = k.slot := by
  have hdone : ∀ {p}, p ∈ k.calls → p.answer?.isSome = true := List.all_eq_true.1 hidle _
  have hkept : k'.held = true ∧ k'.calls = k.calls ∧ k'.slot = k.slot := by
    refine hr.keeps (P := fun k' => k'.held = true ∧ k'.calls = k.calls ∧ k'.slot = k.slot)
      (fun hs hn h => next?_keeps
        (P := fun k' => k'.held = true ∧ k'.calls = k.calls ∧ k'.slot = k.slot)
        (fun {a k₁ k₂} hm h => ?_) (fun k₁ hb => ?_) hn h) ⟨hheld, rfl, rfl⟩
    · obtain ⟨hh, hcalls, hslot⟩ := h
      cases Acts.move hm with
      | tells ls hk => exact hk ▸ ⟨hh, hcalls, hslot⟩
      | frees _ hf => simp [hf.1] at hh
      | lives hl =>
        rcases a with i | j | c
        case call =>
          obtain ⟨p, hp, hlive⟩ := hl
          simp [hdone (List.mem_of_getElem? (hcalls ▸ hp))] at hlive
        all_goals
          obtain ⟨hc, hs | hf⟩ := frame_of_worker hm (by simp)
          · exact ⟨(Answers.move hm).held.trans hh, hc.trans hcalls, hs.trans hslot⟩
          · simp [hf.1] at hh
    · cases hb with
      | call r => exact hs.elim
      | drop => exact hs.elim
      | _ => exact h
  exact hkept.2

theorem watchOver_of_slot (h1 : OneSession k) {i : Nat} (hs : k.slot = some i) :
    k.watchOver i = false := by
  obtain ⟨w, hw, ho, -⟩ := h1.awake_iff.2 hs
  simp [watchOver, hw, ho]

/-- Without a call under way, a watch goes on unless the state is disconnected. -/
theorem running_iff (h1 : OneSession k) (h : InOrder k) (hidle : k.idle = true) :
    (∃ i, k.watchOver i = false) ↔ k.state ≠ .disconnected := by
  refine ⟨fun hi => ?_, fun hst => ?_⟩
  · obtain ⟨i, hi⟩ := hi
    exact h.slotted (h.slot_of_idle h1 hidle hi).1
  obtain ⟨i, hi⟩ := Option.isSome_iff_exists.1 ((h.state_of_idle hidle).1 hst)
  exact ⟨i, watchOver_of_slot h1 hi⟩

end Idle

section Begins

theorem disconnect_refuses (hheld : k.held = true) (hno : k.state.hasSession = false) :
    (k.call .disconnect).resume T (.call k.calls.length) =
      (k.call .disconnect).conclude k.calls.length (.outcome Failure.notConnected.outcome) := by
  have hc : (k.call .disconnect).calls[k.calls.length]? = some (.opened .disconnect) :=
    List.getElem?_concat_length
  have hno' : (k.call .disconnect).state.hasSession = false := hno
  have hheld' : ((k.call .disconnect).conclude k.calls.length
    (.outcome Failure.notConnected.outcome)).held = true := hheld
  simp [resume, resumeCall, hc, beginCall, hno', reply_eq, release, hheld']

theorem disconnect_claims (hi : k.installed = true) (hs : k.state.hasSession = true) :
    (k.call .disconnect).resume T (.call k.calls.length) =
      (k.call .disconnect).setCall k.calls.length (.claiming .disconnect) := by
  have hc : (k.call .disconnect).calls[k.calls.length]? = some (.opened .disconnect) :=
    List.getElem?_concat_length
  have hi' : (k.call .disconnect).installed = true := hi
  have hs' : (k.call .disconnect).state.hasSession = true := hs
  simp [resume, resumeCall, hc, beginCall, hi', hs']

/-- A call to disconnect that finds no session is refused, and the slot stays as it is. -/
theorem refused_of_disconnect {ss : List (Step State)} {p : CallPhase Op} (hheld : k.held = true)
    (hidle : k.idle = true) (hno : k.state.hasSession = false)
    (hr : RunsUnder T (fun _ s => s.Bides)
      ((k.call .disconnect).resume T (.call k.calls.length)) ss k')
    (hp : k'.calls[k.calls.length]? = some p) :
    p = .answered (.outcome Failure.notConnected.outcome) ∧ k'.slot = k.slot := by
  rw [disconnect_refuses hheld hno] at hr
  have hcalls : ((k.call .disconnect).conclude k.calls.length
      (.outcome Failure.notConnected.outcome)).calls =
        k.calls ++ [.answered (.outcome Failure.notConnected.outcome)] := by
    simp [conclude, setCall, record, Keeper.call]
  have hdone : ((k.call .disconnect).conclude k.calls.length
      (.outcome Failure.notConnected.outcome)).idle = true := by
    have hall : ∀ q ∈ k.calls, q.answer?.isSome = true := List.all_eq_true.1 hidle
    rw [idle, hcalls]
    simpa [CallPhase.answer?] using hall
  obtain ⟨hsame, hslot⟩ := slot_of_bides hr hheld hdone
  rw [hsame, hcalls, List.getElem?_concat_length] at hp
  exact ⟨(Option.some.inj hp).symm, hslot⟩

/-- A call to disconnect that finds a session departs, and all is over when it has answered. -/
theorem departs_of_disconnect {config : LinkConfig} {transport : State} {installed : Bool}
    {ss ss₁ : List (Step State)} {p : CallPhase Op}
    (h : Runs T (fresh config transport installed) ss k) (hheld : k.held = true)
    (hidle : k.idle = true) (hs : k.state.hasSession = true)
    (hr : RunsUnder T (fun _ s => s.Bides)
      ((k.call .disconnect).resume T (.call k.calls.length)) ss₁ k')
    (hp : k'.calls[k.calls.length]? = some p) :
    Departs T k' p ∧ (p.answer?.isSome = true → Spent k') := by
  have hinstalled : k.installed = true := by
    refine installed_of_state h fun hst => ?_
    simp [hst, LinkState.hasSession] at hs
  have hturn := disconnect_claims (T := T) hinstalled hs
  have hc : ((k.call .disconnect).setCall k.calls.length (.claiming .disconnect)).calls[
      k.calls.length]? = some (.claiming .disconnect) :=
    getElem?_setCall (k := k.call .disconnect) List.getElem?_concat_length _
  have hready : (k.call .disconnect).ready T (.call k.calls.length) = true := by
    simp [ready, Keeper.call, record, callReady]
  have halone : Alone k.calls.length
      ((k.call .disconnect).resume T (.call k.calls.length)) :=
    moves_keep (fun hm h => h.move hm) (resume_moves hready)
      ((Alone.of_idle h hidle _).call hheld _)
  rw [hturn] at hr halone
  have hunmade : (k.call .disconnect).deeds (Event.by (.call k.calls.length)) = [] :=
    (deeds_of_befalls _ (.call _)).trans (deeds_of_unmade h (fun _ _ => rfl) _ (Nat.le_refl _))
  obtain ⟨p', hp', hdeparts⟩ := Departs.claiming.run hr.runs hc
  obtain rfl := Option.some.inj (hp.symm.trans hp')
  obtain ⟨-, hconcludes⟩ := Concludes.run hr halone (.winds (.claiming hc hunmade))
  refine ⟨hdeparts, fun hdone => ?_⟩
  cases hdeparts with
  | answered =>
    refine hconcludes.ended hp fun o ho => ?_
    obtain rfl := Answer.outcome.inj ho
    rfl
  | _ => cases hdone

end Begins

/-- A call to disconnect is made while no other is under way, and no other after it.

It is refused if and only if no watch goes on or the state is failed; in that state there is a
watch, which goes on. Else it is never stuck: it can go on, or waits for the watch and for no longer
than the join timeout, or waits for the transport; each of its turns answers it or leaves it fewer,
but for those in which the transport is not done. When it has answered, it has done so with success
and no watch goes on. -/
theorem disconnect_of_run {config : LinkConfig} {transport : State} {installed : Bool}
    {k k₀ k₁ k₂ : Keeper State Op} {ss ss₁ : List (Step State)} {p : CallPhase Op}
    (h : RunsUnder T InTurn (fresh config transport installed) ss k) (hidle : k.idle = true)
    (hcall : k.next? T (.call .disconnect) = some k₀)
    (hturn : k₀.next? T (.resume (.call k.calls.length)) = some k₁)
    (h₁ : RunsUnder T (fun _ s => s.Bides) k₁ ss₁ k₂) (hp : k₂.calls[k.calls.length]? = some p) :
    (k.state.hasSession = true ↔ (∃ i, k.watchOver i = false) ∧ k.state ≠ .failed) ∧
    (p = .answered (.outcome Failure.notConnected.outcome) ↔
      (∀ i, k.watchOver i = true) ∨ k.state = .failed) ∧
    (k.state = .failed → ∃ i, k.slot = some i ∧ k.watchOver i = false ∧
      k₂.slot = some i ∧ k₂.watchOver i = false) ∧
    (k.state.hasSession = true →
      (p.answer? = none →
        (k₂.ready T (.call k.calls.length) = true ∨
          (∃ i d, p = .joining .disconnect i d ∧ k₂.now < d ∧
            d ≤ k₂.now + k₂.config.joinTimeout) ∨
          ∃ op, p = .closing .disconnect op ∧ T.Carries .disconnect op ∧
            T.ready op k₂.now k₂.transport = false) ∧
        ∀ k₃, k₂.next? T (.resume (.call k.calls.length)) = some k₃ →
          ∃ p', k₃.calls[k.calls.length]? = some p' ∧ Nears T k₂ p p') ∧
      (p.answer?.isSome = true → p = .answered (.outcome (Outcome.done "Disconnected")) ∧
        k₂.state = .disconnected ∧ ∀ i, k₂.watchOver i = true)) := by
  obtain ⟨h1, hord⟩ := InOrder.run h oneSession_fresh .fresh
  have hrunning := running_iff h1 hord hidle
  obtain ⟨hheld, rfl⟩ := held_of_call hcall
  obtain ⟨-, rfl⟩ := ready_of_resume hturn
  have h1₂ : OneSession k₂ := (h1.run (.cons hcall (.cons hturn (.nil _)))).run h₁.runs
  have hsession : k.state.hasSession = true ↔
      (∃ i, k.watchOver i = false) ∧ k.state ≠ .failed := by
    rw [hrunning]
    cases k.state <;> simp [LinkState.hasSession]
  have hnone : (∀ i, k.watchOver i = true) ∨ k.state = .failed ↔ k.state.hasSession = false := by
    rw [← Bool.not_eq_true, hsession, not_and_or, not_exists, not_not]
    simp
  refine ⟨hsession, ?_⟩
  rw [hnone]
  rcases hs : k.state.hasSession with _ | _
  · obtain ⟨rfl, hslot⟩ := refused_of_disconnect hheld hidle hs h₁ hp
    refine ⟨by simp, fun hfailed => ?_, by simp⟩
    obtain ⟨i, hi⟩ := Option.isSome_iff_exists.1 ((hord.state_of_idle hidle).1 (by simp [hfailed]))
    exact ⟨i, hi, watchOver_of_slot h1 hi, hslot.trans hi, watchOver_of_slot h1₂ (hslot.trans hi)⟩
  · obtain ⟨hdeparts, hspent⟩ := departs_of_disconnect h.runs hheld hidle hs h₁ hp
    refine ⟨?_, fun hfailed => ?_, fun _ => ⟨fun hopen => ⟨?_, fun k₃ hn => ?_⟩, fun hdone => ?_⟩⟩
    · refine ⟨fun hrefused => ?_, by simp⟩
      subst hrefused
      cases hdeparts
    · simp [hfailed, LinkState.hasSession] at hs
    · have hready : k₂.ready T (.call k.calls.length) = k₂.callReady T p := by simp [ready, hp]
      rw [hready]
      exact hdeparts.callReady hopen
    · obtain ⟨-, rfl⟩ := ready_of_resume hn
      obtain ⟨p', hp', -, hnears⟩ := hdeparts.resume hp hopen
      exact ⟨p', hp', hnears⟩
    · have hquiet := (hspent hdone).quiet
      refine ⟨?_, hquiet.state, fun i => ?_⟩
      · cases hdeparts <;> first | rfl | cases hdone
      · rcases hw : k₂.watches[i]? with _ | w
        · simp [watchOver, hw]
        · simp [watchOver, hw, hquiet.ended hw]

/-- After the call was refused or has claimed the session: the attempt in flight comes to its end,
and the session with it. -/
def partingSteps : List (Step Rehearsal.Stage) :=
  [.resume (.call 1), .resume (.watch 0), .pass 50, .resume (.episode 0), .resume (.watch 0),
    .resume (.call 1)]

theorem disconnect_of_run_late : ∃ k k₀ k₁ k₂,
    RunsUnder Rehearsal.stage InTurn (fresh {} {} true) lossSteps k ∧
    k.next? Rehearsal.stage (.call .disconnect) = some k₀ ∧
    k₀.next? Rehearsal.stage (.resume (.call k.calls.length)) = some k₁ ∧
    RunsUnder Rehearsal.stage (fun _ s => s.Bides) k₁ partingSteps k₂ ∧
    k.watchOver 0 = false ∧ k.state = .reconnecting ∧
    k₂.calls[k.calls.length]? = some (.answered (.outcome (Outcome.done "Disconnected"))) ∧
    k₂.state = .disconnected ∧ k₂.watchOver 0 = true := by
  obtain ⟨k, k₀, k₁, k₂, p, hr, hidle, hn₀, hn₁, hr₂, hw, hst, hp, hdone⟩ : ∃ k k₀ k₁ k₂ p,
      RunsUnder Rehearsal.stage InTurn (fresh {} {} true) lossSteps k ∧ k.idle = true ∧
      k.next? Rehearsal.stage (.call .disconnect) = some k₀ ∧
      k₀.next? Rehearsal.stage (.resume (.call k.calls.length)) = some k₁ ∧
      RunsUnder Rehearsal.stage (fun _ s => s.Bides) k₁ partingSteps k₂ ∧
      k.watchOver 0 = false ∧ k.state = .reconnecting ∧
      k₂.calls[k.calls.length]? = some p ∧ p.answer?.isSome = true :=
    ⟨_, _, _, _, _, .cons rfl rfl <| .cons trivial rfl <| .cons trivial rfl <| .cons trivial rfl <|
      .cons trivial rfl <| .cons trivial rfl <| .cons trivial rfl <| .cons trivial rfl <| .nil _,
      rfl, rfl, rfl, .cons trivial rfl <| .cons trivial rfl <| .cons trivial rfl <|
      .cons trivial rfl <| .cons trivial rfl <| .cons trivial rfl <| .nil _, rfl, rfl, rfl, rfl⟩
  obtain ⟨-, -, -, hsession⟩ := disconnect_of_run hr hidle hn₀ hn₁ hr₂ hp
  obtain ⟨hanswer, hstate, hover⟩ := (hsession (by rw [hst]; rfl)).2 hdone
  exact ⟨k, k₀, k₁, k₂, hr, hn₀, hn₁, hr₂, hw, hst, hanswer ▸ hp, hstate, hover 0⟩

/-- The link is lost, and the one attempt to get it back that there is time for is refused. -/
def givenUpSteps : List (Step Rehearsal.Stage) :=
  [.call (.connect none none), .resume (.call 0), .resume (.call 0), .resume (.watch 0),
    .disturb { fallback := { dial := .code (-3) } }, .pass 10000, .resume (.watch 0),
    .resume (.episode 0), .pass 5000, .resume (.episode 0)]

/-- A call to disconnect is refused while a session goes on, and leaves it so. -/
theorem disconnect_refused : ∃ k k₀ k₁,
    RunsUnder Rehearsal.stage InTurn
      (fresh { reconnectTimeoutSecs := 5, pollIntervalMs := 10000 } {} true) givenUpSteps k ∧
    k.idle = true ∧ k.settled Rehearsal.stage = true ∧ k.watchOver 0 = false ∧
    k.next? Rehearsal.stage (.call .disconnect) = some k₀ ∧
    k₀.next? Rehearsal.stage (.resume (.call k.calls.length)) = some k₁ ∧
    k₁.calls[k.calls.length]? = some (.answered (.outcome Failure.notConnected.outcome)) ∧
    k₁.watchOver 0 = false :=
  ⟨_, _, _, .cons rfl rfl <| .cons trivial rfl <| .cons trivial rfl <| .cons trivial rfl <|
    .cons trivial rfl <| .cons trivial rfl <| .cons trivial rfl <| .cons trivial rfl <|
    .cons trivial rfl <| .cons trivial rfl <| .nil _, rfl, rfl, rfl, rfl, rfl, rfl, rfl⟩

end Keeper

end SessionKeeper

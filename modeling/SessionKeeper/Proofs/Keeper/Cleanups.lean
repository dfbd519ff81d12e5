import SessionKeeper.Proofs.Keeper.Closings

/-!
# How long a call to clean up takes, and what is left to further ones

A call to clean up waits for the watch of the session until a deadline, and then for the transport
to close the link. While it has not answered, no more than the join timeout has passed since it was
made, or the transport has been asked within that time to disconnect, once, and is not done
(`Tidies.run`). When it has answered all sessions are over (`Spent`); as long as the transport does
not report the link up, further calls to clean up answer at once and leave the keeper as it was
(`Idles.run`). `cleanup_of_run` says both.
-/

namespace SessionKeeper

variable {State Op : Type}

/-- A call to clean up that has not answered. -/
def CallPhase.cleans : CallPhase Op → Bool
  | opened .cleanup | claiming .cleanup | joining .cleanup _ _ | closing .cleanup _ => true
  | _ => false

/-- What a call answers that has ended the session. -/
def Ending.answer : Ending → Answer
  | disconnect => .outcome (Outcome.done "Disconnected")
  | cleanup => .done

/-- How many turns a call that ends a session has at most before it waits for the transport. -/
def CallPhase.turnsLeft : CallPhase Op → Nat
  | opened _ => 3
  | claiming _ => 2
  | joining _ _ _ => 1
  | _ => 0

/-- Nobody calls for anything but to clean up, and the transport does not come to report the link
up. -/
def Step.Dormant (T : Transport State Op) : Step State → Prop
  | call r => r = .cleanup
  | disturb s => T.isUp s ≠ .ok true
  | resume _ | pass _ | drop => True

namespace Keeper

variable {T : Transport State Op} {k k' : Keeper State Op} {a : Actor} {c : Nat}

section Spent

/-- All is over, and no call is under way. -/
structure Spent (k : Keeper State Op) : Prop where
  quiet : Quiet k
  idle : ∀ {c : Nat} {p : CallPhase Op}, k.calls[c]? = some p → p.answer?.isSome = true

theorem Spent.move (hm : Move T a k k') (h : Spent k) : Spent k' := by
  cases Acts.move hm with
  | tells ls hk =>
    subst hk
    exact ⟨h.quiet.of_same (h.quiet.one.move hm) rfl rfl rfl rfl, h.idle⟩
  | frees hs => simp [h.quiet.slot] at hs
  | lives hl =>
    rcases a with i | j | c <;> obtain ⟨x, hx, hlive⟩ := hl
    · simp [h.quiet.ended hx] at hlive
    · simp [h.quiet.episode_over hx] at hlive
    · simp [h.idle hx] at hlive

theorem Spent.befall {s : Step State} (hs : ∀ r, s ≠ .call r) (hb : Befalls k s k') (h : Spent k) :
    Spent k' := by
  have h1 := h.quiet.one.befall hb
  cases hb with
  | call r => exact (hs r rfl).elim
  | _ => exact ⟨h.quiet.of_same h1 rfl rfl rfl rfl, h.idle⟩

/-- A call to clean up is under way, or all is over. -/
def Wraps (T : Transport State Op) (c : Nat) (k : Keeper State Op) : Prop :=
  Winds T c .cleanup k ∨ Spent k

theorem Parts.refused_or_spent {ending : Ending} (h : Parts T c ending k) (hk : Alone c k) :
    (ending = .disconnect ∧ ∃ o, k.calls[c]? = some (.answered (.outcome o)) ∧ o.success = false) ∨
      Spent k := by
  cases h with
  | refused hc ho he => exact .inl ⟨he, _, hc, ho⟩
  | closed hc hq =>
    refine .inr ⟨hq, fun {c' p} hp => ?_⟩
    by_cases hcc : c' = c
    · subst hcc
      obtain rfl := Option.some.inj (hc.symm.trans hp)
      rfl
    · exact hk.others hp hcc

theorem Parts.spent (h : Parts T c .cleanup k) (hk : Alone c k) : Spent k :=
  (h.refused_or_spent hk).resolve_left fun hr => by cases hr.1

theorem Wraps.move (hm : Move T a k k') (hk : Alone c k) (h : Wraps T c k) : Wraps T c k' := by
  rcases h with hw | hd
  · exact (hw.go hk hm).imp_right fun hp => hp.spent (hk.move hm)
  · exact .inr (hd.move hm)

theorem Wraps.befall {s : Step State} (hs : ∀ r, s ≠ .call r) (hb : Befalls k s k')
    (h : Wraps T c k) : Wraps T c k' := by
  refine h.imp (fun hw => ?_) (Spent.befall hs hb)
  have hsame := deeds_of_befalls (Event.by (.call c)) hb
  cases hb with
  | call r => exact (hs r rfl).elim
  | _ => exact hw.of_same rfl rfl hsame

theorem Wraps.spent {answer : Answer} (h : Wraps T c k)
    (hc : k.calls[c]? = some (.answered answer)) : Spent k := by
  refine h.resolve_left fun hw => ?_
  obtain ⟨p, hp, hlive⟩ := hw.lives
  obtain rfl := Option.some.inj (hc.symm.trans hp)
  cases hlive

/-- While no other call is made, a call to clean up is under way, or all is over. -/
theorem Wraps.run {ss : List (Step State)} (hr : Runs T k ss k') (hs : ∀ r, .call r ∉ ss)
    (hk : Alone c k) (h : Wraps T c k) : Alone c k' ∧ Wraps T c k' := by
  have hcalls : ∀ s ∈ ss, ∀ r, s ≠ .call r := by
    rintro s hmem r rfl
    exact hs r hmem
  exact (hr.under_of_mem hcalls).keeps (P := fun k => Alone c k ∧ Wraps T c k)
    (fun hs hn h => next?_keeps (P := fun k => Alone c k ∧ Wraps T c k)
      (fun hm h => ⟨h.1.move hm, h.2.move hm h.1⟩)
      (fun _ hb => ⟨h.1.befall hs hb, h.2.befall hs hb⟩) hn h) ⟨hk, h⟩

/-- The call to clean up has its last turn. -/
theorem Wraps.offline {up : State → Bool} {answer : Answer} (hT : T.Shuts up) (hk : Alone c k)
    (h : Wraps T c k) (hready : k.ready T (.call c) = true)
    (hc : (k.resume T (.call c)).calls[c]? = some (.answered answer))
    (hfault : ∀ f, .returned (.call c) (.error f) ∉ (k.resume T (.call c)).history)
    (hquery : .invoked (.call c) .disconnect ∈ (k.resume T (.call c)).history ∨
      ∃ b, T.isUp (k.resume T (.call c)).transport = .ok b) :
    (k.resume T (.call c)).Offline up := by
  have hw : Winds T c .cleanup k := by
    refine h.resolve_right fun hd => ?_
    rcases hp : k.calls[c]? with _ | p
    · simp [ready, hp] at hready
    · have hidle := hd.idle hp
      cases p <;> simp [ready, hp, callReady, CallPhase.answer?] at hready hidle
  rcases hw.turn hk (resume_moves hready) with hw | hparts
  · obtain ⟨p, hp, hlive⟩ := hw.lives
    obtain rfl := Option.some.inj (hc.symm.trans hp)
    cases hlive
  · cases hparts with
    | refused _ _ he => cases he
    | closed _ _ hdown => exact hdown hT hfault fun _ => hquery

end Spent

section Cleans

variable {p : CallPhase Op}

theorem answered_of_closed (ending : Ending) (hc : k.calls[c]? = some p) :
    (k.closed T c ending).calls[c]? = some (.answered ending.answer) := by
  have hreply : ∀ k₁ : Keeper State Op, k₁.calls = k.calls →
      (k₁.reply T c ending.answer).calls[c]? = some (.answered ending.answer) := by
    intro k₁ hk
    rw [reply_eq, calls_release]
    exact getElem?_setCall (hk ▸ hc) _
  have hsame : (if k.state = .disconnected then k
      else k.setState (.call c) .disconnected).calls = k.calls := by
    split <;> rfl
  unfold closed
  cases ending with
  | disconnect => exact hreply (Keeper.log _ _ _ _) hsame
  | cleanup => exact hreply _ hsame

/-- The transport is not done with closing the link, or the call answers. -/
theorem closeCall_cases (ending : Ending) (op : Op) (hc : k.calls[c]? = some p) :
    (∃ op', (k.turn T op).progress = .pending op' ∧ k.closeCall T c ending op =
      (k.absorb (.call c) (k.turn T op)).setCall c (.closing ending op')) ∨
    (k.closeCall T c ending op).calls[c]? = some (.answered ending.answer) := by
  unfold closeCall
  rw [operate_eq]
  rcases (k.turn T op).progress with op' | f | code
  · exact .inl ⟨op', rfl, rfl⟩
  · cases ending with
    | disconnect => exact .inr (answered_of_closed _ (k := (k.absorb _ _).log _ _ _) hc)
    | cleanup => exact .inr (answered_of_closed _ (k := ((k.absorb _ _).log _ _ _).log _ _ _) hc)
  · cases ending with
    | disconnect =>
      refine .inr ?_
      simp only []
      split
      · exact answered_of_closed _ (k := (k.absorb _ _).log _ _ _) hc
      · exact answered_of_closed _ (k := k.absorb _ _) hc
    | cleanup => exact .inr (answered_of_closed _ (k := (k.absorb _ _).log _ _ _) hc)

/-- The call asks the transport to disconnect and waits for it, or answers. -/
theorem closeTransport_cases (ending : Ending) (hc : k.calls[c]? = some p) :
    (∃ op, T.Carries .disconnect op ∧
      (k.closeTransport T c ending).calls[c]? = some (.closing ending op) ∧
      (k.closeTransport T c ending).deeds (Event.by (.call c)) =
        k.deeds (Event.by (.call c)) ++ [.invoked (.call c) .disconnect]) ∨
    (k.closeTransport T c ending).calls[c]? = some (.answered ending.answer) := by
  unfold closeTransport
  split
  · exact .inr (answered_of_closed _ hc)
  rcases closeCall_cases (T := T) (k := k.record (.invoked (.call c) .disconnect)) ending
    (T.start .disconnect) hc with ⟨op, ht, hk⟩ | hc'
  · refine .inl ⟨op, .pending .start ht, ?_, ?_⟩ <;> rw [hk]
    · exact getElem?_setCall (k := (k.record _).absorb _ _) hc _
    · simp [Turn.ends, ht, Event.by]
  · exact .inr hc'

/-- What a turn of a call to clean up that waits at a phase comes to. -/
inductive Cleans (T : Transport State Op) (c : Nat) (k k' : Keeper State Op) : CallPhase Op → Prop
  | claims (hc : k'.calls[c]? = some (.claiming .cleanup))
      (hd : k'.deeds (Event.by (.call c)) = k.deeds (Event.by (.call c))) :
      Cleans T c k k' (.opened .cleanup)
  | joins {i : Nat}
      (hc : k'.calls[c]? = some (.joining .cleanup i (wake k.now k.config.joinTimeout)))
      (hd : k'.deeds (Event.by (.call c)) = k.deeds (Event.by (.call c))) :
      Cleans T c k k' (.claiming .cleanup)
  | asks {p : CallPhase Op} {op : Op} (hp : 0 < p.turnsLeft) (hop : T.Carries .disconnect op)
      (hc : k'.calls[c]? = some (.closing .cleanup op))
      (hd : k'.deeds (Event.by (.call c)) =
        k.deeds (Event.by (.call c)) ++ [.invoked (.call c) .disconnect]) : Cleans T c k k' p
  | waits {op op' : Op} (ht : (k.turn T op).progress = .pending op')
      (hc : k'.calls[c]? = some (.closing .cleanup op'))
      (hd : k'.deeds (Event.by (.call c)) = k.deeds (Event.by (.call c))) :
      Cleans T c k k' (.closing .cleanup op)
  | answers {p : CallPhase Op} (hc : k'.calls[c]? = some (.answered .done)) : Cleans T c k k' p

namespace Cleans

/-- The call has only the transport left to close. -/
theorem closeTransport {k₁ : Keeper State Op} (hc : k.calls[c]? = some p) (hp : 0 < p.turnsLeft)
    (hcalls : k₁.calls = k.calls)
    (hd : k₁.deeds (Event.by (.call c)) = k.deeds (Event.by (.call c))) :
    Cleans T c k (k₁.closeTransport T c .cleanup) p := by
  rcases closeTransport_cases (T := T) .cleanup (hcalls ▸ hc) with ⟨op, hop, hc', hd'⟩ | hc'
  · exact .asks hp hop hc' (hd ▸ hd')
  · exact .answers hc'

theorem claim (hc : k.calls[c]? = some (.claiming .cleanup)) :
    Cleans T c k (k.claim T c .cleanup) (.claiming .cleanup) := by
  unfold Keeper.claim
  split
  · exact .closeTransport hc (Nat.succ_pos 1) rfl rfl
  · rename_i i hs
    have hc' : ({ k with slot := none }.raiseStop i).calls[c]? = some (.claiming .cleanup) := by
      rw [raiseStop_eq]
      exact hc
    refine .joins (getElem?_setCall hc' _) ?_
    rw [deeds_setCall, deeds_raiseStop]
    rfl

theorem joined {i d : Nat} (hc : k.calls[c]? = some (.joining .cleanup i d)) :
    Cleans T c k (k.joined T c .cleanup i) (.joining .cleanup i d) := by
  -- aborting what is left of the session moves no call and is no deed of one
  have hlast : ∀ k₁ : Keeper State Op, k₁.calls = k.calls →
      k₁.deeds (Event.by (.call c)) = k.deeds (Event.by (.call c)) →
      Cleans T c k ((k₁.abortLastEpisode T i).closeTransport T c .cleanup)
        (.joining .cleanup i d) := by
    intro k₁ hcalls hd
    refine .closeTransport hc (Nat.succ_pos 0) ?_ ((deeds_abortLastEpisode _ k₁ i).trans hd)
    obtain ⟨s, hs⟩ := abortLastEpisode_eq T i k₁
    rw [hs]
    exact hcalls
  unfold Keeper.joined
  simp only []
  split
  · exact hlast k rfl rfl
  · rw [log_eq]
    refine hlast _ ?_ ((deeds_abortWatch _ _ i).trans (deeds_say _ k _))
    obtain ⟨s, hs⟩ := abortWatch_eq T i (k.say [_])
    rw [hs]
    rfl

theorem closeCall {op : Op} (hc : k.calls[c]? = some (.closing .cleanup op)) :
    Cleans T c k (k.closeCall T c .cleanup op) (.closing .cleanup op) := by
  rcases closeCall_cases (T := T) .cleanup op hc with ⟨op', ht, hk⟩ | hc'
  · rw [hk]
    refine .waits ht (getElem?_setCall (k := k.absorb _ _) hc _) ?_
    simp [Turn.ends, ht]
  · exact .answers hc'

theorem resume (hc : k.calls[c]? = some p) (hp : p.cleans = true) :
    Cleans T c k (k.resume T (.call c)) p := by
  simp only [Keeper.resume, resumeCall, hc]
  unfold CallPhase.cleans at hp
  split at hp
  · exact .claims (getElem?_setCall hc _) rfl
  · exact .claim hc
  · exact .joined hc
  · exact .closeCall hc
  · cases hp

/-- After a turn the call has answered or has fewer turns left, or the turn was the transport's. -/
theorem turnsLeft (h : Cleans T c k k' p) :
    ∃ p', k'.calls[c]? = some p' ∧ (p' = .answered .done ∨ p'.turnsLeft < p.turnsLeft ∨
      ∃ op op', p = .closing .cleanup op ∧ (k.turn T op).progress = .pending op' ∧
        p' = .closing .cleanup op') := by
  cases h with
  | claims hc => exact ⟨_, hc, .inr (.inl (Nat.lt_succ_self 2))⟩
  | joins hc => exact ⟨_, hc, .inr (.inl (Nat.lt_succ_self 1))⟩
  | asks hp _ hc => exact ⟨_, hc, .inr (.inl hp)⟩
  | waits ht hc => exact ⟨_, hc, .inr (.inr ⟨_, _, rfl, ht, rfl⟩)⟩
  | answers hc => exact ⟨_, hc, .inl rfl⟩

end Cleans

end Cleans

section Tidies

/-- What others do leaves a call where it waits. -/
structure Bides (c : Nat) (k k' : Keeper State Op) : Prop where
  call : k'.calls[c]? = k.calls[c]?
  now : k'.now = k.now
  config : k'.config = k.config
  deeds : k'.deeds (Event.by (.call c)) = k.deeds (Event.by (.call c))

namespace Bides

theorem move {k₀ : Keeper State Op} (ha : a ≠ .call c) (hm : Move T a k k') (h : Bides c k₀ k) :
    Bides c k₀ k' :=
  ⟨(calls_of_others hm ha).trans h.call, (now_of_move hm).trans h.now,
    (Later.move hm).config.trans h.config,
    (deeds_of_move hm fun _ he => Event.by_ne he ha).trans h.deeds⟩

/-- Time passes, the call goes on, or others do something at the same instant. -/
theorem next {s : Step State} (hn : k.next? T s = some k') (hc : c < k.calls.length) :
    (∃ ms, s = .pass ms ∧ k' = { k with now := k.now + ms }) ∨
      (s = .resume (.call c) ∧ k' = k.resume T (.call c)) ∨ Bides c k k' := by
  have hmoves : ∀ {b k₁}, b ≠ .call c → Relation.ReflTransGen (Move T b) k₁ k' →
      Bides c k k₁ → Bides c k k' := fun hb hm h => moves_keep (fun hm h => h.move hb hm) hm h
  rcases next?_cases hn with ⟨b, rfl, hr, rfl⟩ | ⟨k₁, hb, hk⟩
  · by_cases hbc : b = .call c
    · subst hbc
      exact .inr (.inl ⟨rfl, rfl⟩)
    · exact .inr (.inr (hmoves hbc (resume_moves hr) ⟨rfl, rfl, rfl, rfl⟩))
  cases hb with
  | pass ms =>
    simp only [next?, Option.some.injEq] at hn
    exact .inl ⟨ms, rfl, hn.symm⟩
  | call r =>
    have hcall : Bides c k (k.call r) :=
      ⟨List.getElem?_append_left hc, rfl, rfl, deeds_of_befalls _ (.call _)⟩
    rcases hk with rfl | rfl
    · exact .inr (.inr hcall)
    · exact .inr (.inr (hmoves (b := .watch 0) (by simp) (release_moves _ _) hcall))
  | _ =>
    rcases hk with rfl | rfl
    · exact .inr (.inr ⟨rfl, rfl, rfl, rfl⟩)
    · exact .inr (.inr (hmoves (b := .watch 0) (by simp) (release_moves _ _) ⟨rfl, rfl, rfl, rfl⟩))

end Bides

/-- How far a call to clean up with deadline `d` has come that waits at a phase, and what was seen
of it. -/
inductive Tidies (T : Transport State Op) (c d : Nat) (seen : List Sight) (k : Keeper State Op) :
    CallPhase Op → Prop
  | opened (hd : wake k.now k.config.joinTimeout = d) (hs : seen = []) :
      Tidies T c d seen k (.opened .cleanup)
  | claiming (hd : wake k.now k.config.joinTimeout = d) (hs : seen = []) :
      Tidies T c d seen k (.claiming .cleanup)
  | joining {i : Nat} (hle : k.now ≤ d) (hs : seen = []) :
      Tidies T c d seen k (.joining .cleanup i d)
  | closing {op : Op} {t : Nat} (hop : T.Carries .disconnect op) (hle : t ≤ d)
      (hs : seen = [⟨t, .invoked (.call c) .disconnect, false⟩]) :
      Tidies T c d seen k (.closing .cleanup op)
  | answered : Tidies T c d seen k (.answered .done)

namespace Tidies

variable {d : Nat} {seen : List Sight} {p : CallPhase Op}

theorem cleans (h : Tidies T c d seen k p) (hp : p.answer? = none) : p.cleans = true := by
  cases h <;> first | rfl | cases hp

/-- Until it asks the transport to disconnect the call is within its deadline. -/
theorem in_time (h : Tidies T c d seen k p) (hp : p.answer? = none) :
    seen = [] ∧ k.now ≤ d ∨
      ∃ op t, p = .closing .cleanup op ∧ T.Carries .disconnect op ∧ t ≤ d ∧
        seen = [⟨t, .invoked (.call c) .disconnect, false⟩] := by
  cases h with
  | opened hd hs => exact .inl ⟨hs, hd ▸ Nat.le_add_right _ _⟩
  | claiming hd hs => exact .inl ⟨hs, hd ▸ Nat.le_add_right _ _⟩
  | joining hle hs => exact .inl ⟨hs, hle⟩
  | closing hop hle hs => exact .inr ⟨_, _, rfl, hop, hle, hs⟩
  | answered => cases hp

/-- The call can go on, or waits within its deadline, or for the transport. -/
theorem callReady (h : Tidies T c d seen k p) (hp : p.answer? = none) :
    k.callReady T p = true ∨ k.now < d ∨
      ∃ op, p = .closing .cleanup op ∧ T.ready op k.now k.transport = false := by
  cases h with
  | opened => exact .inl rfl
  | claiming => exact .inl rfl
  | joining =>
    rcases Nat.lt_or_ge k.now d with hlt | hge
    · exact .inr (.inl hlt)
    · exact .inl (by simp [Keeper.callReady, hge])
  | @closing op =>
    rcases hready : T.ready op k.now k.transport with _ | _
    · exact .inr (.inr ⟨op, rfl, hready⟩)
    · exact .inl hready
  | answered => cases hp

theorem of_same (h : Tidies T c d seen k p) (hnow : k'.now = k.now)
    (hconfig : k'.config = k.config) : Tidies T c d seen k' p := by
  cases h with
  | opened hd hs => exact .opened (by rw [hnow, hconfig, hd]) hs
  | claiming hd hs => exact .claiming (by rw [hnow, hconfig, hd]) hs
  | joining hle hs => exact .joining (hnow ▸ hle) hs
  | closing hop hle hs => exact .closing hop hle hs
  | answered => exact .answered

/-- No time passes while the call could go on, so the deadline is not missed. -/
theorem pass {ms : Nat} (h : Tidies T c d seen k p) (hc : k.calls[c]? = some p)
    (hok : Punctual T (.call c) k (.pass ms)) :
    Tidies T c d seen { k with now := k.now + ms } p := by
  have hready : ∀ t, { k with now := t }.callReady T p = true → k.now ≤ t → k.now + ms ≤ t := by
    intro t hr hle
    by_contra hlt
    have hnot := hok t hle (Nat.lt_of_not_le hlt)
    simp [ready, hc, hr] at hnot
  have hstill : k.callReady T p = true → k.now + ms = k.now := fun hr =>
    Nat.le_antisymm (hready k.now hr (Nat.le_refl _)) (Nat.le_add_right _ _)
  cases h with
  | opened hd hs => exact (opened hd hs).of_same (hstill rfl) rfl
  | claiming hd hs => exact (claiming hd hs).of_same (hstill rfl) rfl
  | joining hle hs => exact .joining (hready d (by simp [Keeper.callReady]) hle) hs
  | closing hop hle hs => exact .closing hop hle hs
  | answered => exact .answered

/-- A turn of the call. -/
theorem turn (h : Tidies T c d seen k p) (hnow : k'.now = k.now) (hconfig : k'.config = k.config)
    (hk : Cleans T c k k' p) : ∃ p', k'.calls[c]? = some p' ∧
      Tidies T c d (seen ++ sights T (.call c) k k') k' p' := by
  cases hk with
  | claims hc hd =>
    rw [sights_eq_nil hd, List.append_nil]
    cases h with
    | opened hdue hs => exact ⟨_, hc, .claiming (by rw [hnow, hconfig, hdue]) hs⟩
  | joins hc hd =>
    rw [sights_eq_nil hd, List.append_nil]
    cases h with
    | claiming hdue hs =>
      exact ⟨_, hdue ▸ hc, .joining (hnow ▸ hdue ▸ Nat.le_add_right _ _) hs⟩
  | asks hp hop hc hd =>
    have hopen : p.answer? = none := by cases p <;> first | rfl | cases hp
    rcases h.in_time hopen with ⟨rfl, hle⟩ | ⟨op, t, rfl, -⟩
    · refine ⟨_, hc, .closing hop hle ?_⟩
      rw [sights_of_deeds hd]
      rfl
    · cases hp
  | waits ht hc hd =>
    rw [sights_eq_nil hd, List.append_nil]
    cases h with
    | closing hop hle hs => exact ⟨_, hc, .closing (.pending hop ht) hle hs⟩
  | answers hc => exact ⟨_, hc, .answered⟩

theorem next {s : Step State} (h : Tidies T c d seen k p) (hc : k.calls[c]? = some p)
    (hok : Punctual T (.call c) k s) (hn : k.next? T s = some k') :
    ∃ p', k'.calls[c]? = some p' ∧ Tidies T c d (seen ++ sights T (.call c) k k') k' p' := by
  rcases Bides.next hn (List.getElem?_eq_some_iff.1 hc).1 with ⟨ms, rfl, rfl⟩ | ⟨rfl, rfl⟩ | hb
  · rw [sights_eq_nil (deeds_of_befalls _ (.pass ms)), List.append_nil]
    exact ⟨p, hc, h.pass hc hok⟩
  · obtain ⟨hr, -⟩ := ready_of_resume hn
    have hopen : p.answer? = none := by
      cases p <;> first | rfl | simp [ready, hc, Keeper.callReady] at hr
    exact h.turn (moves_keep (fun hm h => (now_of_move hm).trans h) (resume_moves hr) rfl)
      (moves_keep (fun hm h => (Later.move hm).config.trans h) (resume_moves hr) rfl)
      (.resume hc (h.cleans hopen))
  · rw [sights_eq_nil hb.deeds, List.append_nil]
    exact ⟨p, hb.call.trans hc, h.of_same hb.now hb.config⟩

theorem run {ss : List (Step State)} (hr : RunsUnder T (Punctual T (.call c)) k ss k')
    (hc : k.calls[c]? = some p) (h : Tidies T c d seen k p) :
    ∃ p', k'.calls[c]? = some p' ∧ Tidies T c d (seen ++ timeline T (.call c) k ss) k' p' := by
  induction hr generalizing seen p with
  | nil k => exact ⟨p, hc, by simpa [timeline] using h⟩
  | cons hok hn _ ih =>
    obtain ⟨p₁, hc₁, h₁⟩ := h.next hc hok hn
    simpa [timeline, hn] using ih hc₁ h₁

end Tidies

end Tidies

section Idles

/-- Nothing has changed but the time, the transport, the calls, and whether the keeper is held, and
no actor has done anything. -/
structure Unmoved (k k' : Keeper State Op) : Prop where
  frame : ∃ now transport calls held history, k' = { k with now, transport, calls, held, history }
  deeds : k'.deeds (fun _ => true) = k.deeds fun _ => true

namespace Unmoved

theorem refl (k : Keeper State Op) : Unmoved k k := ⟨⟨_, _, _, _, _, rfl⟩, rfl⟩

theorem trans {k'' : Keeper State Op} (h : Unmoved k k') (h' : Unmoved k' k'') :
    Unmoved k k'' := by
  obtain ⟨now, transport, calls, held, history, rfl⟩ := h.frame
  obtain ⟨now', transport', calls', held', history', rfl⟩ := h'.frame
  exact ⟨⟨_, _, _, _, _, rfl⟩, h'.deeds.trans h.deeds⟩

theorem say (ls : List LogRecord) (k : Keeper State Op) : Unmoved k (k.say ls) :=
  ⟨⟨_, _, _, _, _, rfl⟩, deeds_say _ k ls⟩

theorem conclude (c : Nat) (a : Answer) (k : Keeper State Op) : Unmoved k (k.conclude c a) :=
  ⟨⟨_, _, _, _, _, rfl⟩, deeds_conclude _ k c a⟩

theorem befall {s : Step State} (hb : Befalls k s k') : Unmoved k k' := by
  refine ⟨?_, deeds_of_befalls _ hb⟩
  cases hb <;> exact ⟨_, _, _, _, _, rfl⟩

end Unmoved

/-- Since `k₀` no call has been made but to clean up, and none has found anything to do. -/
structure Idles (T : Transport State Op) (k₀ k : Keeper State Op) : Prop where
  unmoved : Unmoved k₀ k
  quiet : Quiet k
  calls : ∀ {c : Nat} {p : CallPhase Op}, k.calls[c]? = some p →
    p = .opened .cleanup ∨ p = .claiming .cleanup ∨ p.answer?.isSome = true
  down : k.isConnected T = false

namespace Idles

variable {k₀ : Keeper State Op}

theorem of_spent (h : Spent k) (hdown : k.isConnected T = false) : Idles T k k :=
  ⟨.refl k, h.quiet, fun hp => .inr (.inr (h.idle hp)), hdown⟩

theorem of_setCall {p : CallPhase Op} (h : Idles T k₀ k)
    (hp : p = .claiming .cleanup ∨ p.answer?.isSome = true) (hcalls : k'.calls = k.calls.set c p)
    {c' : Nat} {p' : CallPhase Op} (hc' : k'.calls[c']? = some p') :
    p' = .opened .cleanup ∨ p' = .claiming .cleanup ∨ p'.answer?.isSome = true := by
  rw [hcalls] at hc'
  rcases getElem?_set_eq_some hc' with ⟨-, rfl⟩ | ⟨-, hc'⟩
  · exact .inr hp
  · exact h.calls hc'

theorem move (hm : Move T a k k') (h : Idles T k₀ k) : Idles T k₀ k' := by
  obtain ⟨hquiet, htransport, hinstalled⟩ := h.quiet.move h.down hm
  have hdown : k'.isConnected T = false := by
    unfold isConnected linkUp
    rw [htransport, hinstalled]
    exact h.down
  cases h.quiet.dozes h.down hm with
  | tells ls => exact ⟨h.unmoved.trans (.say ls k), hquiet, h.calls, hdown⟩
  | claims hc =>
    exact ⟨h.unmoved.trans ⟨⟨_, _, _, _, _, rfl⟩, rfl⟩, hquiet, h.of_setCall (.inl rfl) rfl, hdown⟩
  | finishes hc =>
    exact ⟨h.unmoved.trans (.conclude _ _ k), hquiet, h.of_setCall (.inr rfl) rfl, hdown⟩
  | refuses ls hc hr =>
    rcases h.calls hc with hp | hp | hp <;> cases hp
    exact hr.elim
  | gives hc => rcases h.calls hc with hp | hp | hp <;> cases hp

theorem befall {s : Step State} (hs : s.Dormant T) (hb : Befalls k s k') (h : Idles T k₀ k) :
    Idles T k₀ k' := by
  have hunmoved := h.unmoved.trans (.befall hb)
  have hone := h.quiet.one.befall hb
  cases hb with
  | call r =>
    obtain rfl : r = .cleanup := hs
    have hcalls : ∀ {c : Nat} {p : CallPhase Op}, (k.call .cleanup).calls[c]? = some p →
        k.calls[c]? = some p ∨ p = .opened .cleanup :=
      fun hp => (getElem?_concat_eq_some.1 hp).imp id fun h => h.2.symm
    refine ⟨hunmoved, ⟨hone, h.quiet.ended, h.quiet.slot, fun hp => ?_, h.quiet.state⟩,
      fun hp => ?_, h.down⟩
    · rcases hcalls hp with hp | rfl
      · exact h.quiet.calls hp
      · rfl
    · rcases hcalls hp with hp | rfl
      · exact h.calls hp
      · exact .inl rfl
  | disturb s =>
    refine ⟨hunmoved, h.quiet.of_same hone rfl rfl rfl rfl, h.calls, ?_⟩
    have hlink : { k with transport := s }.linkUp T = false := by
      unfold linkUp
      rcases hu : T.isUp s with f | b
      · rfl
      · rw [Bool.eq_false_iff]
        rintro rfl
        exact hs hu
    simp [isConnected, hlink]
  | _ =>
    exact ⟨hunmoved, h.quiet.of_same hone rfl rfl rfl rfl, h.calls,
      h.down⟩

theorem run {ss : List (Step State)} (hr : RunsUnder T (fun _ s => s.Dormant T) k ss k')
    (h : Idles T k₀ k) : Idles T k₀ k' :=
  hr.keeps (P := Idles T k₀)
    (fun hs hn h => next?_keeps (fun hm h => h.move hm) (fun _ hb => h.befall hs hb) hn h) h

/-- A call to clean up that has not answered has two turns at most, and does not wait for them. -/
theorem turn (h : Idles T k₀ k) {p : CallPhase Op} (hc : k.calls[c]? = some p)
    (hp : p.answer? = none) : k.ready T (.call c) = true ∧
      (p = .opened .cleanup ∧ (k.resume T (.call c)).calls[c]? = some (.claiming .cleanup) ∨
        p = .claiming .cleanup ∧ (k.resume T (.call c)).calls[c]? = some (.answered .done)) := by
  rcases h.calls hc with rfl | rfl | hdone
  · refine ⟨by simp [ready, hc, callReady], .inl ⟨rfl, ?_⟩⟩
    simp only [resume, resumeCall, hc]
    exact getElem?_setCall hc _
  · refine ⟨by simp [ready, hc, callReady], .inr ⟨rfl, ?_⟩⟩
    simp only [resume, resumeCall, hc, claim, h.quiet.slot, closeTransport, h.down]
    exact answered_of_closed .cleanup hc
  · simp [hp] at hdone

end Idles

end Idles

/-- A call to clean up is made while no other is under way, and no other until it has answered.

While it has not, no more than the join timeout has passed since and it has done nothing, or it has
asked the transport within that time to disconnect, once, and that is not done. It can go on, or
waits for the watch and that time is not over, or waits for the transport. Each of its turns answers
it or leaves it fewer, but for those in which the transport is not done.

When it has answered and the transport does not come to report the link up, further calls to clean
up take no time, answer in their second turn, and change nothing. -/
theorem cleanup_of_run {config : LinkConfig} {transport : State} {installed : Bool}
    {k k₀ : Keeper State Op} {ss ss₁ : List (Step State)} {p : CallPhase Op}
    (h : Runs T (fresh config transport installed) ss k) (hidle : k.idle = true)
    (hlen : k.calls.length = c)
    (h₁ : RunsUnder T (Punctual T (.call c)) k (.call .cleanup :: ss₁) k₀)
    (halone : ∀ r, .call r ∉ ss₁) (hp : k₀.calls[c]? = some p) :
    (p.answer? = none →
      (timeline T (.call c) k (.call .cleanup :: ss₁) = [] ∧
          k₀.now ≤ k.now + config.joinTimeout ∨
        ∃ op t, p = .closing .cleanup op ∧ T.Carries .disconnect op ∧
          t ≤ k.now + config.joinTimeout ∧
          timeline T (.call c) k (.call .cleanup :: ss₁) =
            [⟨t, .invoked (.call c) .disconnect, false⟩]) ∧
      (k₀.ready T (.call c) = true ∨ k₀.now < k.now + config.joinTimeout ∨
        ∃ op, p = .closing .cleanup op ∧ T.ready op k₀.now k₀.transport = false) ∧
      ∀ k₁, k₀.next? T (.resume (.call c)) = some k₁ →
        ∃ p', k₁.calls[c]? = some p' ∧ (p' = .answered .done ∨ p'.turnsLeft < p.turnsLeft ∨
          ∃ op op', p = .closing .cleanup op ∧ (k₀.turn T op).progress = .pending op' ∧
            p' = .closing .cleanup op')) ∧
    (p.answer?.isSome = true → p = .answered .done ∧
      (k₀.isConnected T = false → ∀ (ss₂ : List (Step State)) (k₂ : Keeper State Op),
        RunsUnder T (fun _ s => s.Dormant T) k₀ ss₂ k₂ → Unmoved k₀ k₂ ∧
          ∀ (c' : Nat) (p' : CallPhase Op), k₂.calls[c']? = some p' → p'.answer? = none →
            (∀ ms, Punctual T (.call c') k₂ (.pass ms) → ms = 0) ∧
            ∃ k₃, k₂.next? T (.resume (.call c')) = some k₃ ∧
              (p' = .opened .cleanup ∧ k₃.calls[c']? = some (.claiming .cleanup) ∨
                p' = .claiming .cleanup ∧ k₃.calls[c']? = some (.answered .done)))) := by
  subst hlen
  set c := k.calls.length
  rcases h₁ with _ | ⟨-, hcall, h₁⟩
  obtain ⟨hheld, rfl⟩ := held_of_call hcall
  have hunmade : k.deeds (Event.by (.call c)) = [] :=
    deeds_of_unmade h (fun _ _ => rfl) c (Nat.le_refl _)
  have hconfig : k.config = config := (Later.run h).config
  have hseen : timeline T (.call c) k (.call .cleanup :: ss₁) =
      timeline T (.call c) (k.call .cleanup) ss₁ := by
    simp only [timeline, hcall]
    rw [sights_eq_nil (deeds_of_befalls _ (.call _)), List.nil_append]
  have hopened : Tidies T c (wake k.now config.joinTimeout) [] (k.call .cleanup)
      (.opened .cleanup) := .opened (by rw [← hconfig]; rfl) rfl
  obtain ⟨p', hp', htidies⟩ := hopened.run h₁ List.getElem?_concat_length
  obtain rfl := Option.some.inj (hp.symm.trans hp')
  rw [hseen]
  rw [List.nil_append] at htidies
  have hdue : wake k.now config.joinTimeout ≤ k.now + config.joinTimeout :=
    Nat.add_le_add_left (Nat.min_le_left _ _) _
  obtain ⟨-, hwraps⟩ := Wraps.run h₁.runs halone ((Alone.of_idle h hidle c).call hheld _)
    (.inl (.of_call hunmade))
  refine ⟨fun hopen => ⟨?_, ?_, fun k₁ hn => ?_⟩, fun hdone => ⟨?_, fun hdown ss₂ k₂ h₂ => ?_⟩⟩
  · rcases htidies.in_time hopen with ⟨hs, hle⟩ | ⟨op, t, hclosing, hop, hle, hs⟩
    · exact .inl ⟨hs, Nat.le_trans hle hdue⟩
    · exact .inr ⟨op, t, hclosing, hop, Nat.le_trans hle hdue, hs⟩
  · have hready : k₀.ready T (.call c) = k₀.callReady T p := by simp [ready, hp]
    rw [hready]
    exact (htidies.callReady hopen).imp_right (Or.imp_left fun hlt => Nat.lt_of_lt_of_le hlt hdue)
  · obtain ⟨-, rfl⟩ := ready_of_resume hn
    exact (Cleans.resume hp (htidies.cleans hopen)).turnsLeft
  · cases htidies <;> first | rfl | cases hdone
  obtain ⟨a, rfl⟩ : ∃ a, p = .answered a := by cases p <;> first | exact ⟨_, rfl⟩ | cases hdone
  have hidles := (Idles.of_spent (hwraps.spent hp) hdown).run h₂
  refine ⟨hidles.unmoved, fun c' p' hp' hopen => ?_⟩
  obtain ⟨hready, hturn⟩ := hidles.turn hp' hopen
  refine ⟨fun ms hms => ?_, k₂.resume T (.call c'), by simp [next?, hready], hturn⟩
  by_contra hne
  have hnot := hms k₂.now (Nat.le_refl _) (by omega)
  exact absurd (hready.symm.trans hnot) (by simp)

/-- The link is lost, and the first attempt to get it back is stuck in the transport. -/
def stuckSteps : List (Step Rehearsal.Stage) :=
  [.call (.connect none none), .resume (.call 0), .resume (.call 0), .resume (.watch 0),
    .disturb { connectDelay := 5000 }, .pass 10, .resume (.watch 0), .resume (.episode 0)]

/-- The call to clean up waits for the watch until its time is over. -/
def overdueSteps : List (Step Rehearsal.Stage) :=
  [.resume (.call 1), .resume (.call 1), .resume (.watch 0), .pass 1000]

/-- Two more calls to clean up, the second of which goes on first. -/
def furtherSteps : List (Step Rehearsal.Stage) :=
  [.call .cleanup, .call .cleanup, .resume (.call 3), .resume (.call 2), .resume (.call 3)]

theorem cleanup_of_run_stuck : ∃ k k₀ k₁ k₂,
    Runs Rehearsal.stage (fresh {} {} true) stuckSteps k ∧
    RunsUnder Rehearsal.stage (Punctual Rehearsal.stage (.call 1)) k
      (.call .cleanup :: overdueSteps) k₀ ∧
    timeline Rehearsal.stage (.call 1) k (.call .cleanup :: overdueSteps) = [] ∧
    k₀.now = k.now + 1000 ∧ k₀.next? Rehearsal.stage (.resume (.call 1)) = some k₁ ∧
    k₁.calls[1]? = some (.answered .done) ∧
    RunsUnder Rehearsal.stage (fun _ s => s.Dormant Rehearsal.stage) k₁ furtherSteps k₂ ∧
    Unmoved k₁ k₂ := by
  have hok : ∀ {k : Keeper Rehearsal.Stage Rehearsal.Op} {i d : Nat},
      k.calls[1]? = some (.joining .cleanup i d) → k.watchOver i = false → k.now + 1000 = d →
      Punctual Rehearsal.stage (.call 1) k (.pass 1000) := by
    intro k i d hc ho hd t _ ht
    simp only [ready, hc, Option.any_some, callReady, Bool.or_eq_false_iff, decide_eq_false_iff_not]
    exact ⟨ho, by omega⟩
  obtain ⟨k, k₀, k₁, k₂, p, hr, hidle, hlen, hr₀, hp, hopen, hnow, hp₀, hn, hp₁, hdown, hr₂⟩ :
      ∃ k k₀ k₁ k₂ p, Runs Rehearsal.stage (fresh {} {} true) stuckSteps k ∧ k.idle = true ∧
      k.calls.length = 1 ∧
      RunsUnder Rehearsal.stage (Punctual Rehearsal.stage (.call 1)) k
        (.call .cleanup :: overdueSteps) k₀ ∧
      k₀.calls[1]? = some p ∧ p.answer? = none ∧ k₀.now = k.now + 1000 ∧
      (∀ op, p ≠ .closing .cleanup op) ∧
      k₀.next? Rehearsal.stage (.resume (.call 1)) = some k₁ ∧
      k₁.calls[1]? = some (.answered .done) ∧ k₁.isConnected Rehearsal.stage = false ∧
      RunsUnder Rehearsal.stage (fun _ s => s.Dormant Rehearsal.stage) k₁ furtherSteps k₂ :=
    ⟨_, _, _, _, _, .cons rfl <| .cons rfl <| .cons rfl <| .cons rfl <| .cons rfl <| .cons rfl <|
      .cons rfl <| .cons rfl <| .nil _, rfl, rfl,
      .cons trivial rfl <| .cons trivial rfl <| .cons trivial rfl <| .cons trivial rfl <|
      .cons (hok rfl rfl rfl) rfl <| .nil _, rfl, rfl, rfl, by simp, rfl, rfl, rfl,
      .cons rfl rfl <| .cons rfl rfl <| .cons trivial rfl <| .cons trivial rfl <|
      .cons trivial rfl <| .nil _⟩
  have hr₁ := hr₀.append (.cons (s := .resume (.call 1)) trivial hn (.nil k₁))
  obtain ⟨hwaits, -⟩ := cleanup_of_run hr hidle hlen hr₀ (by simp [overdueSteps]) hp
  obtain ⟨-, hdone⟩ := cleanup_of_run hr hidle hlen hr₁ (by simp [overdueSteps]) hp₁
  obtain ⟨hunmoved, -⟩ := (hdone rfl).2 hdown _ _ hr₂
  refine ⟨k, k₀, k₁, k₂, hr, hr₀, ?_, hnow, hn, hp₁, hr₂, hunmoved⟩
  rcases (hwaits hopen).1 with ⟨hseen, -⟩ | ⟨op, t, hclosing, -⟩
  · exact hseen
  · exact (hp₀ op hclosing).elim

end Keeper

end SessionKeeper

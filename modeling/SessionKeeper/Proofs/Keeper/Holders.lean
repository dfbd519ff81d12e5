import SessionKeeper.Proofs.Keeper.Stops

/-!
# Whose the state is

The watch that announces a loss takes the state for its session, which has it until an episode of
it ends. Of the others only calls that end a session, and episodes of sessions that are stopped,
take the state from it, and they make it disconnected (`Sets.move`). So when an episode is under way
whose session is not stopped and the state is not reconnecting, the state was taken from the session
in that way (`lowered_of_run`), and not by a call to connect.
-/

namespace SessionKeeper

variable {State Op : Type}

/-- A change of the state. -/
def Event.sets : Event → Bool
  | stateSet _ _ => true
  | _ => false

@[simp] theorem Turn.sets_ends (who : Actor) (t : Turn State Op) :
    (t.ends who).filter Event.sets = [] := by
  unfold ends
  split
  · rfl
  · simp [Event.sets]

theorem Watch.replaces_abort {w : Watch Op} (h : w.abort.phase.replaces = true) :
    w.phase.replaces = true := by
  unfold Watch.abort at h
  split at h
  · exact h
  · cases h

namespace Keeper

variable {T : Transport State Op} {k k' : Keeper State Op} {i : Nat} {a : Actor}

/-- The watch of a session is about to begin an episode. -/
def Replaces (k : Keeper State Op) (i : Nat) : Prop :=
  ∃ w, k.watches[i]? = some w ∧ w.phase.replaces = true

/-- An episode of a session is not over. -/
def Strives (k : Keeper State Op) (i : Nat) : Prop :=
  ∃ (j : Nat) (e : Episode Op), k.episodes[j]? = some e ∧ e.watch = i ∧ e.phase.over = false

section Sets

/-- What a move does to the state. -/
inductive Sets (a : Actor) (k k' : Keeper State Op) : Prop
  | same (hd : k'.deeds Event.sets = k.deeds Event.sets) (hs : k'.state = k.state)
  | lowers (hd : k'.deeds Event.sets = k.deeds Event.sets ++ [.stateSet a .disconnected])
  /-- The state is no session's. -/
  | takes {s : LinkState} (hfree : k.state ≠ .reconnecting) (hs : k'.state = s)
      (hd : k'.deeds Event.sets = k.deeds Event.sets ++ [.stateSet a s])
  | ends {s : LinkState} {j : Nat} {e e' : Episode Op} (he : k.episodes[j]? = some e)
      (hlive : e.phase.over = false) (hst : k.isStopped e.watch = false)
      (h : k'.episodes = k.episodes.set j e') (hover : e'.phase.over = true)
      (hw : k'.watches = k.watches)
      (hd : k'.deeds Event.sets = k.deeds Event.sets ++ [.stateSet a s])

namespace Sets

theorem of_lower (k₁ : Keeper State Op) (hd : k₁.deeds Event.sets = k.deeds Event.sets)
    (hs : k₁.state = k.state) (hd' : k'.deeds Event.sets = (k₁.lower a).deeds Event.sets)
    (hs' : k'.state = (k₁.lower a).state) : Sets a k k' := by
  unfold lower at hd' hs'
  split at hd'
  · rename_i hdown
    rw [if_pos hdown] at hs'
    exact .same (hd'.trans hd) (hs'.trans hs)
  · exact .lowers (by simp [hd', hd, Event.sets])

theorem of_stopEpisode {k₁ : Keeper State Op} (j : Nat) (e : Episode Op)
    (hd : k₁.deeds Event.sets = k.deeds Event.sets) (hs : k₁.state = k.state) :
    Sets (.episode j) k (k₁.stopEpisode j e) := by
  simp only [stopEpisode]
  split
  · exact .lowers (by simp [hd, Event.sets])
  · exact .same (by simp [hd]) hs

theorem move (hm : Move T a k k') : Sets a k k' := by
  have habsorb : ∀ who t, (k.absorb who t).deeds Event.sets = k.deeds Event.sets := by simp
  cases hm with
  | lose hw hl hst hu hseen hs =>
    exact .takes (s := .reconnecting) hs rfl (by simp [Keeper.lose, log_eq, Event.sets])
  | timeOut he ht hst hl =>
    exact .ends (s := .failed) he ht.live hst rfl rfl rfl
      (by simp [Keeper.timeOut, log_eq, Event.sets])
  | succeed he hp ht hst ho =>
    exact .ends (s := .connected) he (by rw [hp]; rfl) hst rfl rfl rfl
      (by simp [Keeper.succeed, log_eq, Event.sets])
  | stop he hi hst => exact of_stopEpisode _ _ rfl rfl
  | drain he hp ht hst ho => exact of_stopEpisode _ _ (habsorb _ _) rfl
  | undone ls he hp ht => exact of_stopEpisode _ _ (by simp) rfl
  | accept hc ht ho hs =>
    refine .takes hs rfl ?_
    rw [deeds_setCall, deeds_setState]
    exact congrArg (· ++ _) (habsorb _ _)
  | skip hcl hu => exact of_lower k rfl rfl (by simp) rfl
  | closed ls ls' hc ht =>
    exact of_lower ((k.absorb _ (k.turn T _)).say ls) (by simp) rfl (by simp) rfl
  | @joined _ _ _ i =>
    obtain ⟨s, hk⟩ := abortLastEpisode_eq T i k
    exact .same (by simp) (by rw [hk])
  | @abort _ _ _ i =>
    obtain ⟨s, hk⟩ := abortWatch_eq T i k
    obtain ⟨s', hk'⟩ := abortLastEpisode_eq T i (k.abortWatch T i)
    exact .same (by simp) (by rw [hk', hk])
  | @release _ _ i =>
    obtain ⟨s, hk⟩ := abortLastEpisode_eq T i ({ k with slot := none }.raiseStop i)
    refine .same ?_ (by rw [hk, raiseStop_eq])
    rw [deeds_abortLastEpisode, deeds_raiseStop]
    rfl
  | join hc hs =>
    refine .same ?_ (by rw [raiseStop_eq]; rfl)
    rw [deeds_setCall, deeds_raiseStop]
    rfl
  | ensure ls hc =>
    refine .same (by simp) (show k.ensureWatch.state = k.state from ?_)
    unfold Keeper.ensureWatch
    split <;> rfl
  | pumped ls hw hp ht => exact .same (by simp) (by rw [rest_eq, forward_eq]; rfl)
  | ignore hw hl hst hu hn => exact .same (by simp) (by rw [rest_eq]; rfl)
  | beginEpisode hw hp ho => exact .same (by simp) (by rw [Keeper.beginEpisode, rest_eq]; rfl)
  | _ => exact .same (by simp [announce, restEpisode, Event.sets]) rfl

end Sets

end Sets

section Claimed

/-- The last to set the state was the watch of the session, which does not wait for an older
episode. -/
structure Holds (k : Keeper State Op) (i : Nat) : Prop where
  state : k.state = .reconnecting
  set : ∃ older, k.deeds Event.sets = older ++ [.stateSet (.watch i) .reconnecting]
  alone : k.Replaces i → ¬ k.Strives i

/-- The state was taken from the session: it became disconnected next after a loss. -/
def Lowered (k : Keeper State Op) (i : Nat) : Prop :=
  ∃ older who newer, k.deeds Event.sets =
    older ++ .stateSet (.watch i) .reconnecting :: .stateSet who .disconnected :: newer

/-- A session that reconnects and is not stopped has the state, or it was taken from it. -/
def Claimed (k : Keeper State Op) : Prop :=
  ∀ i, k.isStopped i = false → k.Replaces i ∨ k.Strives i → k.Holds i ∨ k.Lowered i

theorem Lowered.append {es : List Event} (h : k.Lowered i)
    (hd : k'.deeds Event.sets = k.deeds Event.sets ++ es) : k'.Lowered i := by
  obtain ⟨older, who, newer, hk⟩ := h
  exact ⟨older, who, newer ++ es, by simp [hd, hk]⟩

theorem deeds_sets_of_move (hm : Move T a k k') :
    ∃ es, k'.deeds Event.sets = k.deeds Event.sets ++ es := by
  cases Sets.move hm with
  | same hd => exact ⟨[], by rw [hd, List.append_nil]⟩
  | lowers hd => exact ⟨_, hd⟩
  | takes _ _ hd => exact ⟨_, hd⟩
  | ends _ _ _ _ _ _ hd => exact ⟨_, hd⟩

theorem Replaces.of_set {n : Nat} {w' : Watch Op} (hw' : k'.watches = k.watches.set n w')
    (hrep : w'.phase.replaces = false) (h : k'.Replaces i) : k.Replaces i := by
  obtain ⟨w, hw, hr⟩ := h
  rw [hw'] at hw
  rcases getElem?_set_eq_some hw with ⟨-, rfl⟩ | ⟨-, hw⟩
  · simp [hrep] at hr
  · exact ⟨w, hw, hr⟩

theorem Replaces.of_modify {n : Nat} {f : Watch Op → Watch Op}
    (hw' : k'.watches = k.watches.modify n f)
    (hf : ∀ w : Watch Op, (f w).phase.replaces = true → w.phase.replaces = true)
    (h : k'.Replaces i) : k.Replaces i := by
  obtain ⟨w, hw, hr⟩ := h
  rw [hw'] at hw
  obtain ⟨w₀, hw₀, rfl⟩ := getElem?_modify_eq_some.1 hw
  refine ⟨w₀, hw₀, ?_⟩
  split at hr
  · exact hf w₀ hr
  · exact hr

/-- A watch is about to begin an episode when it was before, or it has just announced a loss. -/
theorem replaces_of_move (hm : Move T a k k') (h : k'.Replaces i) : k.Replaces i ∨
    k.state ≠ .reconnecting ∧ k'.state = .reconnecting ∧
      k'.deeds Event.sets = k.deeds Event.sets ++ [.stateSet (.watch i) .reconnecting] := by
  cases hm with
  | @lose n _ w hw hl hst hu hseen hs =>
    by_cases hn : n = i
    · subst hn
      exact .inr ⟨hs, rfl, by simp [Keeper.lose, log_eq, Event.sets]⟩
    · obtain ⟨v, hv, hr⟩ := h
      refine .inl ⟨v, ?_, hr⟩
      rwa [← List.getElem?_set_ne hn]
  | leave hw hi hst => exact .inl (.of_set rfl (Watch.replaces_lastPhase _) h)
  | sight hw hl hst hu => exact .inl (.of_set rfl rfl h)
  | pumping hw hp ht => exact .inl (.of_set rfl rfl h)
  | pumped ls hw hp ht =>
    rw [rest_eq, forward_eq] at h
    exact .inl (.of_set rfl (Watch.replaces_nextPhase _ _) h)
  | ignore hw hl hst hu hn =>
    rw [rest_eq] at h
    exact .inl (.of_set rfl (Watch.replaces_nextPhase _ _) h)
  | beginEpisode hw hp ho =>
    rw [Keeper.beginEpisode, rest_eq] at h
    exact .inl (.of_set rfl (Watch.replaces_nextPhase _ _) h)
  | finish hw hp ho => exact .inl (.of_set rfl rfl h)
  | stop he hi hst =>
    rw [stopEpisode_eq] at h
    exact .inl h
  | drain he hp ht hst ho =>
    rw [stopEpisode_eq] at h
    exact .inl h
  | undone ls he hp ht =>
    rw [stopEpisode_eq] at h
    exact .inl h
  | ensure ls hc =>
    obtain ⟨w, hw, hr⟩ := h
    unfold Keeper.ensureWatch at hw
    split at hw
    · exact .inl ⟨w, hw, hr⟩
    · rcases getElem?_concat_eq_some.1 hw with hw | ⟨-, rfl⟩
      · exact .inl ⟨w, hw, hr⟩
      · cases hr
  | join hc hs =>
    rw [raiseStop_eq] at h
    refine .inl (.of_modify rfl ?_ h)
    exact fun _ => id
  | @joined _ _ _ n =>
    obtain ⟨s, hk⟩ := abortLastEpisode_eq T n k
    rw [hk] at h
    refine .inl (.of_modify rfl ?_ h)
    exact fun _ => id
  | @abort _ _ _ n =>
    obtain ⟨s, hk⟩ := abortWatch_eq T n k
    obtain ⟨s', hk'⟩ := abortLastEpisode_eq T n (k.abortWatch T n)
    rw [hk', hk] at h
    simp only [List.modify_modify_eq] at h
    refine .inl (.of_modify rfl ?_ h)
    exact fun _ => Watch.replaces_abort
  | skip hcl hu =>
    rw [lower_eq] at h
    exact .inl h
  | closed ls ls' hc ht =>
    rw [lower_eq] at h
    exact .inl h
  | @release _ _ n =>
    obtain ⟨s, hk⟩ := abortLastEpisode_eq T n ({ k with slot := none }.raiseStop n)
    rw [hk, raiseStop_eq] at h
    simp only [List.modify_modify_eq] at h
    refine .inl (.of_modify rfl ?_ h)
    exact fun _ => id
  | _ => exact .inl h

/-- An episode is not over when it was not before, or its watch has waited to begin it. -/
theorem strives_of_move (hm : Move T a k k') (h : k'.Strives i) : k.Strives i ∨
    k.Replaces i ∧ ¬ k'.Replaces i := by
  obtain ⟨j, e, he, rfl, hlive⟩ := h
  cases Fares.move hm with
  | same hsame => exact .inl ⟨j, e, hsame ▸ he, rfl, hlive⟩
  | goes ha he₀ hset hlive₀ hwatch =>
    rw [hset] at he
    rcases getElem?_set_eq_some he with ⟨rfl, rfl⟩ | ⟨-, he⟩
    · exact .inl ⟨_, _, he₀, hwatch.symm, hlive₀⟩
    · exact .inl ⟨j, e, he, rfl, hlive⟩
  | begins hbegin hp hw hrep hw' hrep' =>
    rw [hbegin] at he
    rcases getElem?_concat_eq_some.1 he with he | ⟨-, rfl⟩
    · exact .inl ⟨j, e, he, rfl, hlive⟩
    · refine .inr ⟨⟨_, hw, hrep⟩, ?_⟩
      rintro ⟨w, hi, hr⟩
      rw [hw', getElem?_set_self_of_eq_some hw] at hi
      obtain rfl := Option.some.inj hi
      simp [hrep'] at hr
  | aborts habort =>
    rw [habort] at he
    obtain ⟨e₀, he₀, ⟨rfl, -⟩ | rfl⟩ := getElem?_of_abort he
    · exact .inl ⟨j, e, he₀, rfl, hlive⟩
    · simp [e₀.abort_over] at hlive

theorem slot_of_busy (h1 : OneSession k) (hst : k.isStopped i = false)
    (h : k.Replaces i ∨ k.Strives i) : k.slot = some i := by
  rcases h with ⟨w, hw, -⟩ | ⟨j, e, he, rfl, hlive⟩
  · exact h1.unstopped hw (by simpa [isStopped, hw] using hst)
  · exact InOrder.slot_of_unstopped h1 he hlive hst

theorem quiet_of_ends (h1 : OneSession k) (hst : k.isStopped i = false)
    (h : k.Replaces i ∨ k.Strives i) (halone : k.Replaces i → ¬ k.Strives i) {j : Nat}
    {e e' : Episode Op} (he : k.episodes[j]? = some e) (hlive : e.phase.over = false)
    (hste : k.isStopped e.watch = false) (hset : k'.episodes = k.episodes.set j e')
    (hover : e'.phase.over = true) (hw : k'.watches = k.watches) :
    ¬ (k'.Replaces i ∨ k'.Strives i) := by
  obtain rfl : i = e.watch := Option.some.inj
    ((slot_of_busy h1 hst h).symm.trans (InOrder.slot_of_unstopped h1 he hlive hste))
  rintro (⟨w, hi, hr⟩ | ⟨j', e₁, he₁, hwatch, hlive₁⟩)
  · exact halone ⟨w, hw ▸ hi, hr⟩ ⟨j, e, he, rfl, hlive⟩
  · rw [hset] at he₁
    rcases getElem?_set_eq_some he₁ with ⟨-, rfl⟩ | ⟨hne, he₁⟩
    · simp [hover] at hlive₁
    · exact hne ((h1.began_of_trying ⟨e, he, hlive, hste⟩).unique
        (h1.began_of_trying ⟨e₁, he₁, hlive₁, hwatch ▸ hste⟩))

namespace Claimed

theorem move (h : Claimed k) (h1 : OneSession k) (hm : Move T a k k') : Claimed k' := by
  intro i hst' hbusy
  have hst : k.isStopped i = false := by
    rw [← Bool.not_eq_true]
    intro hst
    simp [(Later.move hm).stopped hst] at hst'
  by_cases hbusy₀ : k.Replaces i ∨ k.Strives i
  · rcases h i hst hbusy₀ with hheld | hlow
    · cases Sets.move hm with
      | same hd hs =>
        refine .inl ⟨hs.trans hheld.state, hd ▸ hheld.set, fun hr hstr => ?_⟩
        have hr₀ := (replaces_of_move hm hr).resolve_right fun h => h.1 hheld.state
        rcases strives_of_move hm hstr with hstr₀ | ⟨-, hn⟩
        · exact hheld.alone hr₀ hstr₀
        · exact hn hr
      | lowers hd =>
        obtain ⟨older, ho⟩ := hheld.set
        exact .inr ⟨older, a, [], by simp [hd, ho]⟩
      | takes hfree => exact absurd hheld.state hfree
      | ends he hlive hste hset hover hw =>
        -- it was the only episode of the session
        exact absurd hbusy (quiet_of_ends h1 hst hbusy₀ hheld.alone he hlive hste hset hover hw)
    · obtain ⟨es, hd⟩ := deeds_sets_of_move hm
      exact .inr (hlow.append hd)
  · obtain ⟨hr₀, hs₀⟩ := not_or.1 hbusy₀
    have hrep : k'.Strives i → False := fun hs =>
      (strives_of_move hm hs).elim hs₀ fun h => hr₀ h.1
    have hr := hbusy.resolve_right hrep
    obtain ⟨-, hs, hd⟩ := (replaces_of_move hm hr).resolve_left hr₀
    exact .inl ⟨hs, ⟨_, hd⟩, fun _ => hrep⟩

theorem befall {s : Step State} (h : Claimed k) (hb : Befalls k s k') : Claimed k' := by
  intro i hst hbusy
  cases hb <;>
    exact (h i hst hbusy).imp (fun hheld => ⟨hheld.state, hheld.set, hheld.alone⟩) id

theorem fresh {config : LinkConfig} {transport : State} {installed : Bool} :
    Claimed (Keeper.fresh config transport installed : Keeper State Op) := by
  rintro i - (⟨w, hw, -⟩ | ⟨j, e, he, -⟩)
  · cases hw
  · cases he

end Claimed

end Claimed

/-- An episode is under way whose session is not stopped, and the state is not reconnecting. Then
the state was taken from the session. -/
theorem lowered_of_run {config : LinkConfig} {transport : State} {installed : Bool}
    {ss : List (Step State)} (h : Runs T (fresh config transport installed) ss k)
    (hfree : k.state ≠ .reconnecting) (hst : k.isStopped i = false) (hs : k.Strives i) :
    k.Lowered i := by
  have hclaimed : OneSession k ∧ Claimed k := by
    refine h.keeps (P := fun k => OneSession k ∧ Claimed k) (fun hm h => ?_) (fun hb h => ?_)
      ⟨oneSession_fresh, .fresh⟩
    · exact ⟨h.1.move hm, h.2.move h.1 hm⟩
    · exact ⟨h.1.befall hb, h.2.befall hb⟩
  exact (hclaimed.2 i hst (.inr hs)).resolve_left fun hheld => hfree hheld.state

end Keeper

end SessionKeeper

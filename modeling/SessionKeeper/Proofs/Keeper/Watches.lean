import SessionKeeper.Proofs.Keeper.InTurn
import SessionKeeper.Proofs.Keeper.Later

/-!
# What becomes of the watches

A move leaves the watches alone, lets one of them go on that is not over, has one stopped or
aborted, or begins one (`Turns.move`). So every watch stays, and what was stopped or over stays so
(`Keeps`); and no watch rests for longer than the time between two ticks (`Ticks`).
-/

namespace SessionKeeper

variable {State Op : Type}

/-- A watch and how it may be later: what was stopped or over is so still. -/
structure Watch.Ages (w w' : Watch Op) : Prop where
  stopped : w.stopped = true → w'.stopped = true
  ended : w.phase.over = true → w'.phase.over = true

theorem Watch.Ages.refl (w : Watch Op) : w.Ages w := ⟨id, id⟩

theorem Watch.Ages.trans {w w' w'' : Watch Op} (h : w.Ages w') (h' : w'.Ages w'') : w.Ages w'' :=
  ⟨h'.stopped ∘ h.stopped, h'.ended ∘ h.ended⟩

theorem Watch.resting_nextPhase {w : Watch Op} {t wake : Nat}
    (h : w.nextPhase wake = .resting t) : t = wake := by
  unfold Watch.nextPhase at h
  split at h
  · unfold Watch.lastPhase at h
    split at h <;> cases h
  · cases h
    rfl

theorem Watch.resting_abort {w : Watch Op} {t : Nat} (h : w.abort.phase = .resting t) :
    w.phase = .resting t := by
  unfold Watch.abort at h
  split at h
  · exact h
  · cases h

theorem wake_le (now duration : Nat) : wake now duration ≤ now + duration :=
  Nat.add_le_add_left (Nat.min_le_left _ _) now

namespace Keeper

variable {T : Transport State Op} {k k' : Keeper State Op} {i : Nat} {a : Actor}

/-- What a move does to the watches. -/
inductive Turns (k k' : Keeper State Op) : Prop
  | same (h : k'.watches = k.watches)
  | goes {i : Nat} {w w' : Watch Op} (h : k'.watches = k.watches.set i w')
      (hw : k.watches[i]? = some w) (hlive : w.phase.over = false) (hst : w'.stopped = w.stopped)
      (hrest : ∀ t, w'.phase = .resting t → t = wake k.now k.config.pollInterval)
  /-- One is stopped, aborted, or parted from its episode. -/
  | yields {i : Nat} {f : Watch Op → Watch Op} (h : k'.watches = k.watches.modify i f)
      (hf : ∀ w : Watch Op, w.Ages (f w))
      (hrest : ∀ w t, (f w).phase = .resting t → w.phase = .resting t)
  | begins (h : k'.watches = k.watches ++ [({} : Watch Op)])

theorem Turns.move (hm : Move T a k k') : Turns k k' := by
  cases hm with
  | leave hw hi hst =>
    refine .goes rfl hw hi.live rfl fun t ht => ?_
    simp only at ht
    split at ht <;> cases ht
  | sight hw hl hst hu => exact .goes rfl hw hl.idle.live rfl (by simp)
  | pumping hw hp ht => exact .goes rfl hw (by rw [hp]; rfl) rfl (by simp)
  | pumped ls hw hp ht =>
    rw [rest_eq, forward_eq]
    exact .goes rfl hw (by rw [hp]; rfl) rfl fun _ => Watch.resting_nextPhase
  | ignore hw hl hst hu hn =>
    rw [rest_eq]
    exact .goes rfl hw hl.idle.live rfl fun _ => Watch.resting_nextPhase
  | lose hw hl hst hu hseen hs => exact .goes rfl hw hl.idle.live rfl (by simp)
  | beginEpisode hw hp ho =>
    unfold Keeper.beginEpisode
    rw [rest_eq]
    exact .goes rfl hw (by rw [hp]; rfl) rfl fun _ => Watch.resting_nextPhase
  | finish hw hp ho => exact .goes rfl hw (by rw [hp]; rfl) rfl (by simp)
  | stop he hi hst =>
    rw [stopEpisode_eq]
    exact .same rfl
  | drain he hp ht hst ho =>
    rw [stopEpisode_eq]
    exact .same rfl
  | undone ls he hp ht =>
    rw [stopEpisode_eq]
    exact .same rfl
  | ensure ls hc =>
    by_cases hp : k.isPolling = true
    · rw [Keeper.ensureWatch, if_pos hp]
      exact .same rfl
    · rw [Keeper.ensureWatch, if_neg hp]
      exact .begins rfl
  | join hc hs =>
    rw [raiseStop_eq]
    exact .yields rfl (fun _ => ⟨fun _ => rfl, id⟩) fun _ _ => id
  | @joined _ _ _ i =>
    obtain ⟨s, hk⟩ := abortLastEpisode_eq T i k
    rw [hk]
    exact .yields rfl (fun _ => ⟨id, id⟩) fun _ _ => id
  | @abort _ _ _ i =>
    obtain ⟨s, hk⟩ := abortWatch_eq T i k
    obtain ⟨s', hk'⟩ := abortLastEpisode_eq T i (k.abortWatch T i)
    rw [hk', hk]
    simp only [List.modify_modify_eq]
    exact .yields rfl (fun w => ⟨w.abort_stopped.trans, fun _ => w.abort_over⟩)
      fun _ _ => Watch.resting_abort
  | skip hcl hu =>
    rw [lower_eq]
    exact .same rfl
  | closed ls ls' hc ht =>
    rw [lower_eq]
    exact .same rfl
  | @release _ _ i =>
    obtain ⟨s, hk⟩ := abortLastEpisode_eq T i ({ k with slot := none }.raiseStop i)
    rw [hk, raiseStop_eq]
    simp only [List.modify_modify_eq]
    exact .yields rfl (fun _ => ⟨fun _ => rfl, id⟩) fun _ _ => id
  | _ => exact .same rfl

/-- Every watch is there later, and older. -/
def Keeps (k k' : Keeper State Op) : Prop :=
  ∀ (i : Nat) (w : Watch Op), k.watches[i]? = some w → ∃ w', k'.watches[i]? = some w' ∧ w.Ages w'

namespace Keeps

theorem refl (k : Keeper State Op) : Keeps k k := fun _ w hw => ⟨w, hw, .refl w⟩

theorem trans {k'' : Keeper State Op} (h : Keeps k k') (h' : Keeps k' k'') : Keeps k k'' := by
  intro i w hw
  obtain ⟨w', hw', ha⟩ := h i w hw
  obtain ⟨w'', hw'', ha'⟩ := h' i w' hw'
  exact ⟨w'', hw'', ha.trans ha'⟩

theorem move (hm : Move T a k k') : Keeps k k' := by
  intro i w hw
  cases Turns.move hm with
  | same h => exact ⟨w, h ▸ hw, .refl w⟩
  | @goes j v v' h hv hlive hst =>
    rw [h]
    by_cases hji : j = i
    · subst hji
      obtain rfl := Option.some.inj (hv.symm.trans hw)
      have hage : v.Ages v' := ⟨hst.trans, by simp [hlive]⟩
      exact ⟨v', getElem?_set_self_of_eq_some hw, hage⟩
    · exact ⟨w, by rw [List.getElem?_set_ne hji, hw], .refl w⟩
  | yields h hf =>
    rw [h]
    refine ⟨_, getElem?_modify_eq_some.2 ⟨w, hw, rfl⟩, ?_⟩
    split
    · exact hf w
    · exact .refl w
  | begins h => exact ⟨w, by rw [h, getElem?_concat_eq_some]; exact .inl hw, .refl w⟩

end Keeps

/-- No watch rests for longer than the time between two ticks. -/
def Ticks (k : Keeper State Op) : Prop :=
  ∀ (i : Nat) (w : Watch Op) (t : Nat), k.watches[i]? = some w → w.phase = .resting t →
    t ≤ k.now + k.config.pollInterval

namespace Ticks

theorem fresh {config : LinkConfig} {transport : State} {installed : Bool} :
    Ticks (Keeper.fresh config transport installed : Keeper State Op) := by
  simp [Ticks, Keeper.fresh]

theorem of_later (h : k.Ticks) (hl : Later k k')
    (hw : ∀ (i : Nat) (w : Watch Op) (t : Nat), k'.watches[i]? = some w → w.phase = .resting t →
      (∃ w₀, k.watches[i]? = some w₀ ∧ w₀.phase = .resting t) ∨
        t ≤ k.now + k.config.pollInterval) : k'.Ticks := by
  intro i w t hi hp
  have hle := hl.now
  rw [hl.config]
  rcases hw i w t hi hp with ⟨w₀, hw₀, hp₀⟩ | ht
  · have := h i w₀ t hw₀ hp₀
    omega
  · omega

theorem move (h : k.Ticks) (hm : Move T a k k') : k'.Ticks := by
  refine h.of_later (.move hm) fun i w t hw hp => ?_
  cases Turns.move hm with
  | same hsame => exact .inl ⟨w, hsame ▸ hw, hp⟩
  | goes hset hv hlive hst hrest =>
    rw [hset] at hw
    rcases getElem?_set_eq_some hw with ⟨-, rfl⟩ | ⟨-, hw⟩
    · exact .inr (hrest t hp ▸ wake_le _ _)
    · exact .inl ⟨w, hw, hp⟩
  | yields hmod hf hrest =>
    rw [hmod] at hw
    obtain ⟨w₀, hw₀, rfl⟩ := getElem?_modify_eq_some.1 hw
    refine .inl ⟨w₀, hw₀, ?_⟩
    split at hp
    · exact hrest w₀ t hp
    · exact hp
  | begins hbegin =>
    rw [hbegin] at hw
    rcases getElem?_concat_eq_some.1 hw with hw | ⟨-, rfl⟩
    · exact .inl ⟨w, hw, hp⟩
    · cases hp

theorem befall {s : Step State} (h : k.Ticks) (hb : Befalls k s k') : k'.Ticks := by
  refine h.of_later (.befall hb) fun i w t hw hp => .inl ⟨w, ?_, hp⟩
  cases hb <;> exact hw

theorem run {ss : List (Step State)} (hr : Runs T k ss k') (h : k.Ticks) : k'.Ticks :=
  hr.keeps (P := fun k => k.Ticks) (fun hm h => h.move hm) (fun hb h => h.befall hb) h

end Ticks

end Keeper

end SessionKeeper

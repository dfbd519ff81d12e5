import SessionKeeper.Proofs.Keeper.Deeds
import SessionKeeper.Proofs.Keeper.Later
import SessionKeeper.Proofs.Keeper.Sessions

/-!
# What an actor does, and when

The history of a keeper has no times. `timeline` reads the times at which an actor does its deeds
off the steps of a run. While others go on, an episode rests: it does nothing, and stays as it is
unless it is stopped or has just begun (`Rests.moves`).
-/

namespace SessionKeeper

variable {State Op : Type}

/-- A deed of an episode with its time and, for the end of an operation, whether the link was up. -/
structure Sight where
  time : Nat
  event : Event
  up : Bool := false

def Event.by (who : Actor) (e : Event) : Bool := e.who? == some who

def Event.returns : Event → Bool
  | returned _ _ => true
  | _ => false

namespace Keeper

variable (T : Transport State Op)

/-- A deed as it is seen. -/
def stamp (now : Nat) (up : Bool) (e : Event) : Sight := ⟨now, e, e.returns && up⟩

/-- What an actor does in a step. -/
def sights (who : Actor) (k k' : Keeper State Op) : List Sight :=
  ((k'.deeds (Event.by who)).drop (k.deeds (Event.by who)).length).map
    (stamp k.now (k'.linkUp T))

/-- What an actor does in a run, with the times. -/
def timeline (who : Actor) : Keeper State Op → List (Step State) → List Sight
  | _, [] => []
  | k, s :: ss =>
    match k.next? T s with
    | none => []
    | some k' => sights T who k k' ++ timeline who k' ss

/-- An episode is not late: no time passes while it could go on. -/
def Punctual (who : Actor) (k : Keeper State Op) : Step State → Prop
  | .pass ms => ∀ t, k.now ≤ t → t < k.now + ms → { k with now := t }.ready T who = false
  | .call _ | .resume _ | .disturb _ | .drop => True

variable {T} {k k' : Keeper State Op} {i : Nat}

theorem sights_of_deeds {who : Actor} {es : List Event}
    (h : k'.deeds (Event.by who) = k.deeds (Event.by who) ++ es) :
    sights T who k k' = es.map (stamp k.now (k'.linkUp T)) := by
  rw [sights, h, List.drop_left]

theorem sights_eq_nil {who : Actor} (hd : k'.deeds (Event.by who) = k.deeds (Event.by who)) :
    sights T who k k' = [] :=
  sights_of_deeds (hd.trans (List.append_nil _).symm)

/-- Others leave an episode alone as long as it is not stopped: it is as it was, or it has just
begun. -/
def Spares (i : Nat) (k k' : Keeper State Op) : Prop :=
  ∀ e, k'.episodes[i]? = some e → k'.isStopped e.watch = false →
    k.episodes[i]? = some e ∨
      k.episodes[i]? = none ∧ e.phase = .starting ∧ e.since = k.now ∧ e.attempts = 0

namespace Spares

theorem of_same (he : k'.episodes = k.episodes) : Spares i k k' :=
  fun _ he' _ => .inl (he ▸ he')

theorem of_set {j : Nat} {e : Episode Op} (he : k'.episodes = k.episodes.set j e)
    (hj : j ≠ i) : Spares i k k' := by
  intro e' he' _
  rw [he, List.getElem?_set_ne hj] at he'
  exact .inl he'

theorem beginEpisode {j : Nat} {w : Watch Op} {target : Endpoint} :
    Spares i k (k.beginEpisode j w target) := by
  intro e' he' _
  simp only [Keeper.beginEpisode, rest_eq, setWatch, record] at he'
  rcases getElem?_concat_eq_some.1 he' with he' | ⟨rfl, rfl⟩
  · exact .inl he'
  · exact .inr ⟨by simp, rfl, rfl, rfl⟩

/-- Only the episodes of a session that is stopped are aborted. -/
theorem of_abort (h1 : OneSession k) {j : Nat} (hst : k'.isStopped j = true)
    (he : k'.episodes =
      (k.abortableOf j).elim k.episodes fun n => k.episodes.modify n Episode.abort) :
    Spares i k k' := by
  intro e' he' hst'
  rw [he] at he'
  rcases hab : k.abortableOf j with _ | n
  · rw [hab] at he'
    exact .inl he'
  rw [hab] at he'
  by_cases hn : n = i
  · subst hn
    obtain ⟨w, hw, hwa⟩ := Option.bind_eq_some_iff.1 hab
    obtain ⟨e, hen, rfl⟩ := h1.bound hw hwa
    obtain ⟨e'', he'', hwatch⟩ := getElem?_modify_abort (i := n) hen
    obtain rfl := Option.some.inj (he''.symm.trans he')
    rw [hwatch, hst] at hst'
    cases hst'
  · exact .inl (by simpa [hn] using he')

theorem move {a : Actor} (h1 : OneSession k) (hm : Move T a k k') (ha : a ≠ .episode i) :
    Spares i k k' := by
  have hl := Later.move hm
  have hne : ∀ {j : Nat}, Actor.episode j ≠ .episode i → j ≠ i := fun h hj => h (by rw [hj])
  cases hm with
  | pumped ls hw hp ht =>
    rw [rest_eq, forward_eq]
    exact .of_same rfl
  | ignore hw hlo hst hu hn =>
    rw [rest_eq]
    exact .of_same rfl
  | beginEpisode hw hp _ => exact .beginEpisode
  | announce he ht hst hlt => exact .of_set rfl (hne ha)
  | timeOut he ht hst _ => exact .of_set rfl (hne ha)
  | stop he hid hst =>
    rw [stopEpisode_eq]
    exact .of_set rfl (hne ha)
  | dialing he hp ht => exact .of_set rfl (hne ha)
  | succeed he hp ht hst _ => exact .of_set rfl (hne ha)
  | fail ls he hp ht hst _ => exact .of_set rfl (hne ha)
  | drain he hp ht hst _ =>
    rw [stopEpisode_eq]
    exact .of_set rfl (hne ha)
  | undo he hp ht hst _ => exact .of_set rfl (hne ha)
  | closing he hp ht => exact .of_set rfl (hne ha)
  | undone ls he hp ht =>
    rw [stopEpisode_eq]
    exact .of_set rfl (hne ha)
  | ensure ls hc =>
    refine .of_same ?_
    show k.ensureWatch.episodes = _
    unfold Keeper.ensureWatch
    split <;> rfl
  | join hc hs =>
    rw [raiseStop_eq]
    exact .of_same rfl
  | joined hc _ =>
    have hst := hl.stopped (h1.joining hc)
    obtain ⟨s, hk⟩ := abortLastEpisode_eq T _ k
    exact .of_abort h1 hst (by rw [hk])
  | @abort _ _ _ j _ hc _ hd =>
    obtain ⟨s, hk⟩ := abortWatch_eq T j k
    obtain ⟨s', hk'⟩ := abortLastEpisode_eq T j (k.abortWatch T j)
    have hab := abortableOf_modify (k := k)
      (show (k.abortWatch T j).watches = _ by rw [hk]) Watch.abort_abortable j
    refine .of_abort h1 (hl.stopped (h1.joining hc)) ?_
    rw [hk', hab, hk]
  | skip hcl hu =>
    rw [lower_eq]
    exact .of_same rfl
  | closed ls ls' hc ht =>
    rw [lower_eq]
    exact .of_same rfl
  | @release _ _ j hh hn hs =>
    obtain ⟨w, hw, -⟩ := h1.slot hs
    obtain ⟨k₁, hk₁⟩ : ∃ k₁, { k with slot := none }.raiseStop j = k₁ := ⟨_, rfl⟩
    have hw₁ : k₁.watches = k.watches.modify j fun w => { w with stopped := true } := by
      rw [← hk₁, raiseStop_eq]
    have he₁ : k₁.episodes = k.episodes := by rw [← hk₁, raiseStop_eq]
    rw [hk₁] at hl ⊢
    obtain ⟨s, hk⟩ := abortLastEpisode_eq T j k₁
    have hab := abortableOf_modify hw₁ (fun _ => rfl) j
    refine .of_abort (j := j) h1 ((Later.abortLastEpisode j k₁).stopped ?_) ?_
    · exact isStopped_iff.2 ⟨{ w with stopped := true }, by rw [hw₁]; simp [hw], rfl⟩
    · rw [hk, hab, he₁]
  | _ => exact .of_same rfl

theorem refl (i : Nat) (k : Keeper State Op) : Spares i k k := fun _ he _ => .inl he

theorem trans {k'' : Keeper State Op} (h : Spares i k k') (h' : Spares i k' k'') (hl : Later k k')
    (hl' : Later k' k'') (hnow : k'.now = k.now) : Spares i k k'' := by
  intro e he hst
  rcases h' e he hst with he' | ⟨hnone, hp, hs, hn⟩
  · refine h e he' ?_
    rw [Bool.eq_false_iff]
    intro hst'
    simp [hl'.stopped hst'] at hst
  · refine .inr ⟨?_, hp, hs.trans hnow, hn⟩
    rcases hk : k.episodes[i]? with _ | e₀
    · rfl
    · obtain ⟨e₁, he₁, -⟩ := hl.ages hk
      rw [hnone] at he₁
      cases he₁

end Spares

/-- No move takes time, or takes the transport away. -/
theorem fixed_of_move {a : Actor} (hm : Move T a k k') :
    k'.now = k.now ∧ k'.installed = k.installed := by
  cases hm with
  | pumped ls hw hp ht =>
    rw [rest_eq, forward_eq]
    exact ⟨rfl, rfl⟩
  | ignore hw hlo hst hu hn =>
    rw [rest_eq]
    exact ⟨rfl, rfl⟩
  | beginEpisode hw hp _ => simp [Keeper.beginEpisode, rest_eq, setWatch, record]
  | stop he hid hst =>
    rw [stopEpisode_eq]
    exact ⟨rfl, rfl⟩
  | drain he hp ht hst _ =>
    rw [stopEpisode_eq]
    exact ⟨rfl, rfl⟩
  | undone ls he hp ht =>
    rw [stopEpisode_eq]
    exact ⟨rfl, rfl⟩
  | ensure ls hc =>
    show k.ensureWatch.now = _ ∧ k.ensureWatch.installed = _
    unfold Keeper.ensureWatch
    split <;> exact ⟨rfl, rfl⟩
  | join hc hs =>
    rw [raiseStop_eq]
    exact ⟨rfl, rfl⟩
  | @joined _ _ _ j =>
    obtain ⟨s, hk⟩ := abortLastEpisode_eq T j k
    rw [hk]
    exact ⟨rfl, rfl⟩
  | @abort _ _ _ j =>
    obtain ⟨s, hk⟩ := abortWatch_eq T j k
    obtain ⟨s', hk'⟩ := abortLastEpisode_eq T j (k.abortWatch T j)
    rw [hk', hk]
    exact ⟨rfl, rfl⟩
  | skip hcl hu =>
    rw [lower_eq]
    exact ⟨rfl, rfl⟩
  | closed ls ls' hc ht =>
    rw [lower_eq]
    exact ⟨rfl, rfl⟩
  | @release _ _ j =>
    obtain ⟨s, hk⟩ := abortLastEpisode_eq T j ({ k with slot := none }.raiseStop j)
    rw [hk, raiseStop_eq]
    exact ⟨rfl, rfl⟩
  | _ => exact ⟨rfl, rfl⟩

theorem now_of_move {a : Actor} (hm : Move T a k k') : k'.now = k.now := (fixed_of_move hm).1

/-- What happens to an episode that does not go on itself: nothing, unless it is stopped or
begins. -/
structure Rests (i : Nat) (k k' : Keeper State Op) : Prop where
  later : Later k k'
  now : k'.now = k.now
  spares : Spares i k k'
  deeds : k'.deeds (Event.by (.episode i)) = k.deeds (Event.by (.episode i))

theorem Rests.move {k₀ : Keeper State Op} {a : Actor} (hm : Move T a k k') (ha : a ≠ .episode i)
    (h1 : OneSession k) (h : Rests i k₀ k) : Rests i k₀ k' where
  later := h.later.trans (.move hm)
  now := (now_of_move hm).trans h.now
  spares := h.spares.trans (.move h1 hm ha) h.later (.move hm) h.now
  deeds := by
    refine (deeds_of_move hm fun e he => ?_).trans h.deeds
    rw [Event.by, he]
    simp [ha]

theorem Rests.moves {a : Actor} (h1 : OneSession k) (hm : Relation.ReflTransGen (Move T a) k k')
    (ha : a ≠ .episode i) : OneSession k' ∧ Rests i k k' := by
  have hmove : ∀ {k₁ k₂}, Move T a k₁ k₂ → OneSession k₁ ∧ Rests i k k₁ →
      OneSession k₂ ∧ Rests i k k₂ := fun hm h => ⟨h.1.move hm, h.2.move hm ha h.1⟩
  exact moves_keep hmove hm ⟨h1, Later.of_same rfl (Nat.le_refl _) rfl rfl, rfl, .refl i k, rfl⟩

end Keeper

end SessionKeeper

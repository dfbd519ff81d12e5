import SessionKeeper.Proofs.Keeper.Runs

/-!
# What is never taken back

The settings of a keeper stay as they are, time does not go back, a stop signal stays raised, and
the attempts of an episode never get fewer: `Later.move` for the moves of the actors and
`Later.befall` for what comes from outside.
-/

namespace SessionKeeper.Keeper

variable {State Op : Type} {T : Transport State Op} {k k' : Keeper State Op}

/-- An episode and how it may be later: of the same session and for the same endpoint, with no
fewer attempts. -/
structure Ages (e e' : Episode Op) : Prop where
  watch : e'.watch = e.watch
  attempts : e.attempts ≤ e'.attempts
  target : e'.target = e.target

theorem Ages.refl (e : Episode Op) : Ages e e := ⟨rfl, Nat.le_refl _, rfl⟩

theorem Ages.abort (e : Episode Op) : Ages e e.abort := by
  unfold Episode.abort
  split <;> exact ⟨rfl, Nat.le_refl _, rfl⟩

/-- What no move takes back. -/
structure Later (k k' : Keeper State Op) : Prop where
  config : k'.config = k.config
  now : k.now ≤ k'.now
  stopped : ∀ {i : Nat}, k.isStopped i = true → k'.isStopped i = true
  ages : ∀ {j : Nat} {e : Episode Op}, k.episodes[j]? = some e →
    ∃ e', k'.episodes[j]? = some e' ∧ Ages e e'

namespace Later

theorem of_same (hcfg : k'.config = k.config) (hnow : k.now ≤ k'.now)
    (hw : k'.watches = k.watches) (he : k'.episodes = k.episodes) : Later k k' :=
  ⟨hcfg, hnow, by simp [isStopped, hw], fun {_ e} h => ⟨e, he ▸ h, .refl e⟩⟩

theorem of_setWatch {i : Nat} {w w' : Watch Op} (hw : k.watches[i]? = some w)
    (hw' : k'.watches = k.watches.set i w') (hcfg : k'.config = k.config) (hnow : k.now ≤ k'.now)
    (hst : w.stopped = true → w'.stopped = true)
    (he : k'.episodes = k.episodes) : Later k k' := by
  exact ⟨hcfg, hnow, isStopped_set hw hw' hst, fun {_ e} h => ⟨e, he ▸ h, .refl e⟩⟩

theorem of_setEpisode {j : Nat} {e e' : Episode Op} (he : k.episodes[j]? = some e)
    (he' : k'.episodes = k.episodes.set j e') (hcfg : k'.config = k.config) (hnow : k.now ≤ k'.now)
    (ha : Ages e e') (hw : k'.watches = k.watches) : Later k k' := by
  refine ⟨hcfg, hnow, by simp [isStopped, hw], ?_⟩
  rw [he']
  intro j' e'' hj
  by_cases hjj : j = j'
  · subst hjj
    exact ⟨e', getElem?_set_self_of_eq_some he,
      Option.some.inj (he.symm.trans hj) ▸ ha⟩
  · exact ⟨e'', by rwa [List.getElem?_set_ne hjj], .refl _⟩

theorem trans {k'' : Keeper State Op} (h : Later k k') (h' : Later k' k'') : Later k k'' := by
  refine ⟨h'.config.trans h.config, Nat.le_trans h.now h'.now, fun hs => h'.stopped (h.stopped hs),
    fun he => ?_⟩
  obtain ⟨e', he', ha⟩ := h.ages he
  obtain ⟨e'', he'', ha'⟩ := h'.ages he'
  exact ⟨e'', he'', ha'.watch.trans ha.watch, Nat.le_trans ha.attempts ha'.attempts,
    ha'.target.trans ha.target⟩

theorem abortLastEpisode (i : Nat) (k : Keeper State Op) : Later k (k.abortLastEpisode T i) := by
  obtain ⟨s, hs⟩ := abortLastEpisode_eq T i k
  rw [hs]
  refine ⟨rfl, Nat.le_refl _, isStopped_modify rfl fun _ h => h, ?_⟩
  · intro j e he
    rcases k.abortableOf i with _ | j'
    · exact ⟨e, he, .refl e⟩
    · by_cases hj : j' = j
      · exact ⟨e.abort, by simp [he, hj], .abort e⟩
      · exact ⟨e, by simpa [hj] using he, .refl e⟩

theorem abortWatch (i : Nat) (k : Keeper State Op) : Later k (k.abortWatch T i) := by
  obtain ⟨s, hs⟩ := abortWatch_eq T i k
  rw [hs]
  exact ⟨rfl, Nat.le_refl _, isStopped_modify rfl fun w h => w.abort_stopped.trans h,
    fun he => ⟨_, he, .refl _⟩⟩

theorem raiseStop (i : Nat) (k : Keeper State Op) :
    Later k ({ k with slot := none }.raiseStop i) := by
  rw [raiseStop_eq]
  exact ⟨rfl, Nat.le_refl _, isStopped_modify rfl fun _ _ => rfl, fun he => ⟨_, he, .refl _⟩⟩

theorem beginEpisode {i : Nat} {w : Watch Op} (hw : k.watches[i]? = some w) (target : Endpoint) :
    Later k (k.beginEpisode i w target) := by
  simp only [Keeper.beginEpisode, rest_eq, setWatch, record]
  exact ⟨rfl, Nat.le_refl _, isStopped_set hw rfl fun h => h,
    fun {j e} he => ⟨e, getElem?_concat_eq_some.2 (.inl he), .refl e⟩⟩

theorem ensureWatch (k : Keeper State Op) : Later k k.ensureWatch := by
  unfold Keeper.ensureWatch
  split
  · exact .of_same rfl (Nat.le_refl _) rfl rfl
  · exact ⟨rfl, Nat.le_refl _, isStopped_concat rfl, fun he => ⟨_, he, .refl _⟩⟩

theorem move {a : Actor} (hm : Move T a k k') : Later k k' := by
  have hle := Nat.le_refl k.now
  cases hm with
  | leave hw => exact .of_setWatch hw rfl rfl hle id rfl
  | sight hw => exact .of_setWatch hw rfl rfl hle id rfl
  | pumping hw => exact .of_setWatch hw rfl rfl hle id rfl
  | pumped ls hw =>
    rw [rest_eq, forward_eq]
    exact .of_setWatch hw rfl rfl hle id rfl
  | ignore hw =>
    rw [rest_eq]
    exact .of_setWatch hw rfl rfl hle id rfl
  | lose hw => exact .of_setWatch hw rfl rfl hle id rfl
  | beginEpisode hw => exact .beginEpisode hw _
  | finish hw => exact .of_setWatch hw rfl rfl hle id rfl
  | announce he => exact .of_setEpisode he rfl rfl hle ⟨rfl, Nat.le_succ _, rfl⟩ rfl
  | timeOut he => exact .of_setEpisode he rfl rfl hle ⟨rfl, Nat.le_refl _, rfl⟩ rfl
  | stop he =>
    rw [stopEpisode_eq]
    exact .of_setEpisode he rfl rfl hle ⟨rfl, Nat.le_refl _, rfl⟩ rfl
  | dialing he => exact .of_setEpisode he rfl rfl hle ⟨rfl, Nat.le_refl _, rfl⟩ rfl
  | succeed he => exact .of_setEpisode he rfl rfl hle ⟨rfl, Nat.le_refl _, rfl⟩ rfl
  | fail ls he => exact .of_setEpisode he rfl rfl hle ⟨rfl, Nat.le_refl _, rfl⟩ rfl
  | drain he =>
    rw [stopEpisode_eq]
    exact .of_setEpisode he rfl rfl hle ⟨rfl, Nat.le_refl _, rfl⟩ rfl
  | undo he => exact .of_setEpisode he rfl rfl hle ⟨rfl, Nat.le_refl _, rfl⟩ rfl
  | closing he => exact .of_setEpisode he rfl rfl hle ⟨rfl, Nat.le_refl _, rfl⟩ rfl
  | undone ls he =>
    rw [stopEpisode_eq]
    exact .of_setEpisode he rfl rfl hle ⟨rfl, Nat.le_refl _, rfl⟩ rfl
  | ensure ls hc =>
    have hsay : ∀ (k : Keeper State Op) c a, Later k ((k.say ls).conclude c a) :=
      fun k _ _ => .of_same rfl (Nat.le_refl k.now) rfl rfl
    exact (ensureWatch k).trans (hsay _ _ _)
  | join hc hs => exact (raiseStop _ k).trans (.of_same rfl (Nat.le_refl _) rfl rfl)
  | joined hc ho => exact abortLastEpisode _ k
  | abort hc ho hd => exact (abortWatch _ k).trans (abortLastEpisode _ _)
  | skip hcl hu =>
    rw [lower_eq]
    exact .of_same rfl hle rfl rfl
  | closed ls ls' hc ht =>
    rw [lower_eq]
    exact .of_same rfl hle rfl rfl
  | release hh hn hs => exact (raiseStop _ k).trans (abortLastEpisode _ _)
  | _ => exact .of_same rfl hle rfl rfl

theorem befall {s : Step State} (hb : Befalls k s k') : Later k k' := by
  cases hb with
  | pass ms => exact .of_same rfl (Nat.le_add_right _ _) rfl rfl
  | _ => exact .of_same rfl (Nat.le_refl _) rfl rfl

theorem refl (k : Keeper State Op) : Later k k := .of_same rfl (Nat.le_refl _) rfl rfl

theorem next {s : Step State} (hn : k.next? T s = some k') : Later k k' :=
  next?_keeps (fun hm h => h.trans (.move hm)) (fun _ hb => .befall hb) hn (.refl k)

theorem run {ss : List (Step State)} (h : Runs T k ss k') : Later k k' :=
  h.keeps (fun hm hl => hl.trans (.move hm)) (fun hb hl => hl.trans (.befall hb)) (.refl k)

end Later

end SessionKeeper.Keeper

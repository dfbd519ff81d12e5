import SessionKeeper.Proofs.Keeper.Runs
import SessionKeeper.Rehearsal.Transport

/-!
# One session at a time

Calls that overlap may begin and end sessions in any order. The slot, the stop signals and what the
watches began last keep each other in order all the same (`OneSession`, kept by every move in
`OneSession.move`): a stop signal is raised when its watch leaves the slot, and a watch begins an
episode only when its last one is over. So one watch at most goes on unstopped, and one episode
(`one_session`).
-/

namespace SessionKeeper

variable {State Op : Type}

/-- A phase that a watch reaches only after the stop. -/
def WatchPhase.ends : WatchPhase Op → Bool
  | leaving | ended | aborted => true
  | _ => false

theorem WatchPhase.ends_of_over {p : WatchPhase Op} (h : p.over = true) : p.ends = true := by
  cases p <;> simp_all [WatchPhase.over, ends]

theorem Watch.ends_nextPhase {w : Watch Op} {t : Nat} (h : (w.nextPhase t).ends = true) :
    w.stopped = true := by
  unfold Watch.nextPhase at h
  split at h
  · assumption
  · cases h

theorem Watch.over_lastPhase {w : Watch Op} (h : w.lastPhase.over = true) : w.episode = none := by
  unfold Watch.lastPhase at h
  split at h
  · cases h
  · rename_i hn
    simpa using hn

theorem Watch.over_nextPhase {w : Watch Op} {t : Nat} (h : (w.nextPhase t).over = true) :
    w.episode = none := by
  unfold Watch.nextPhase at h
  split at h
  · exact over_lastPhase h
  · cases h

theorem Episode.Tries.live {e : Episode Op} {now : Nat} (h : e.Tries now) :
    e.phase.over = false := by
  rcases h with h | ⟨t, -, h⟩ <;> rw [h] <;> rfl

theorem Episode.Idle.live {e : Episode Op} (h : e.Idle) : e.phase.over = false := by
  rcases h with h | ⟨t, h⟩ <;> rw [h] <;> rfl

def Event.begins : Event → Bool
  | watchBegan _ => true
  | _ => false

@[simp] theorem Event.begins_logged : Event.begins ∘ Event.logged = fun _ => false := rfl

@[simp] theorem Turn.countP_begins (who : Actor) (t : Turn State Op) :
    (t.events who).countP Event.begins = 0 := by
  unfold events
  cases t.progress <;> split <;> simp [Event.begins]

namespace Keeper

theorem getElem?_modify_abort {l : List (Episode Op)} {i j : Nat} {e : Episode Op}
    (h : l[j]? = some e) :
    ∃ e', (l.modify i Episode.abort)[j]? = some e' ∧ e'.watch = e.watch := by
  refine ⟨_, getElem?_modify_eq_some.2 ⟨e, h, rfl⟩, ?_⟩
  unfold Episode.abort
  split
  · split <;> rfl
  · rfl

/-- The order among the sessions of a keeper. -/
structure OneSession (k : Keeper State Op) : Prop where
  slot : ∀ {i : Nat}, k.slot = some i → ∃ w, k.watches[i]? = some w ∧ w.stopped = false
  unstopped : ∀ {i : Nat} {w : Watch Op},
    k.watches[i]? = some w → w.stopped = false → k.slot = some i
  ends : ∀ {i : Nat} {w : Watch Op},
    k.watches[i]? = some w → w.phase.ends = true → w.stopped = true
  joining : ∀ {c i d : Nat} {ending : Ending},
    k.calls[c]? = some (.joining ending i d) → k.isStopped i = true
  owned : ∀ {j : Nat} {e : Episode Op}, k.episodes[j]? = some e → e.phase.over = false →
    ∃ w, k.watches[e.watch]? = some w ∧ w.episode = some j ∧ w.abortable = some j ∧
      w.phase.over = false
  bound : ∀ {i j : Nat} {w : Watch Op}, k.watches[i]? = some w → w.abortable = some j →
    ∃ e, k.episodes[j]? = some e ∧ e.watch = i

namespace OneSession

variable {T : Transport State Op} {k k' : Keeper State Op} {i j : Nat}

theorem of_same (h : OneSession k) (hs : k'.slot = k.slot) (hw : k'.watches = k.watches)
    (he : k'.episodes = k.episodes)
    (hc : ∀ {c i d : Nat} {ending}, k'.calls[c]? = some (.joining ending i d) →
      ∃ (c : Nat) (ending : Ending) (d : Nat), k.calls[c]? = some (.joining ending i d)) :
    OneSession k' where
  slot := by rw [hs, hw]; exact h.slot
  unstopped := by rw [hs, hw]; exact h.unstopped
  ends := by rw [hw]; exact h.ends
  joining hj := by
    obtain ⟨c, ending, d, hj⟩ := hc hj
    rw [isStopped_congr hw]
    exact h.joining hj
  owned := by rw [he, hw]; exact h.owned
  bound := by rw [he, hw]; exact h.bound

/-- A watch changes and its stop signal does not. -/
theorem of_modifyWatch {f : Watch Op → Watch Op} (h : OneSession k)
    (hw' : k'.watches = k.watches.modify i f) (hs : k'.slot = k.slot) (hc : k'.calls = k.calls)
    (hstop : ∀ {w}, k.watches[i]? = some w → (f w).stopped = w.stopped)
    (hends : ∀ {w}, k.watches[i]? = some w → (f w).phase.ends = true → w.stopped = true)
    (howned : ∀ {j : Nat} {e : Episode Op}, k'.episodes[j]? = some e → e.phase.over = false →
      ∃ w, k'.watches[e.watch]? = some w ∧ w.episode = some j ∧ w.abortable = some j ∧
        w.phase.over = false)
    (hbound : ∀ {i j : Nat} {w : Watch Op}, k'.watches[i]? = some w → w.abortable = some j →
      ∃ e, k'.episodes[j]? = some e ∧ e.watch = i) : OneSession k' where
  slot hn := by
    rw [hs] at hn
    obtain ⟨w, hw, hst⟩ := h.slot hn
    rw [hw']
    refine ⟨_, getElem?_modify_eq_some.2 ⟨w, hw, rfl⟩, ?_⟩
    split
    · rename_i hin
      subst hin
      rw [hstop hw, hst]
    · exact hst
  unstopped hv hst := by
    rw [hw'] at hv
    obtain ⟨w, hw, rfl⟩ := getElem?_modify_eq_some.1 hv
    rw [hs]
    split at hst
    · rename_i hin
      subst hin
      rw [hstop hw] at hst
      exact h.unstopped hw hst
    · exact h.unstopped hw hst
  ends hv he := by
    rw [hw'] at hv
    obtain ⟨w, hw, rfl⟩ := getElem?_modify_eq_some.1 hv
    split at he <;> rename_i hin
    · subst hin
      rw [if_pos rfl, hstop hw]
      exact hends hw he
    · rw [if_neg hin]
      exact h.ends hw he
  joining hj := by
    rw [hc] at hj
    obtain ⟨w, hw, hst⟩ := isStopped_iff.1 (h.joining hj)
    rw [isStopped_iff, hw']
    refine ⟨_, getElem?_modify_eq_some.2 ⟨w, hw, rfl⟩, ?_⟩
    split
    · rename_i hin
      subst hin
      rw [hstop hw, hst]
    · exact hst
  owned := howned
  bound := hbound

theorem of_setWatch {w w' : Watch Op} (h : OneSession k) (hw : k.watches[i]? = some w)
    (hw' : k'.watches = k.watches.set i w') (hs : k'.slot = k.slot)
    (he : k'.episodes = k.episodes) (hc : k'.calls = k.calls) (hstop : w'.stopped = w.stopped)
    (hepi : w'.episode = w.episode) (habort : w'.abortable = w.abortable)
    (hends : w'.phase.ends = true → w.stopped = true)
    (hover : w'.phase.over = true → w.episode.all k.episodeOver = true) : OneSession k' := by
  have hi := (List.getElem?_eq_some_iff.1 hw).1
  have hself : ∀ {v}, k.watches[i]? = some v → v = w :=
    fun hv => Option.some.inj (hv.symm.trans hw)
  refine h.of_modifyWatch (f := fun _ => w') (by rw [hw', ← set_eq_modify _ hw]) hs hc
    (fun hv => hself hv ▸ hstop) (fun hv => hself hv ▸ hends) ?_ ?_
  · rw [he, hw']
    intro j e hj hlive
    obtain ⟨v, hv, hve, hva, hvo⟩ := h.owned hj hlive
    by_cases hie : i = e.watch
    · subst hie
      obtain rfl := hself hv
      refine ⟨w', List.getElem?_set_self hi, hepi.trans hve, habort.trans hva, ?_⟩
      rw [Bool.eq_false_iff]
      intro ho
      have := hover ho
      simp [hve, episodeOver, hj, hlive] at this
    · exact ⟨v, by rw [List.getElem?_set_ne hie]; exact hv, hve, hva, hvo⟩
  · rw [he, hw']
    intro n j v hv ha
    rcases getElem?_set_eq_some hv with ⟨rfl, rfl⟩ | ⟨-, hv⟩
    · exact h.bound hw (habort.symm.trans ha)
    · exact h.bound hv ha

theorem of_setEpisode {e e' : Episode Op} (h : OneSession k) (he : k.episodes[j]? = some e)
    (he' : k'.episodes = k.episodes.set j e') (hs : k'.slot = k.slot)
    (hw : k'.watches = k.watches) (hc : k'.calls = k.calls) (hwatch : e'.watch = e.watch)
    (hlive : e.phase.over = false) : OneSession k' where
  slot := by rw [hs, hw]; exact h.slot
  unstopped := by rw [hs, hw]; exact h.unstopped
  ends := by rw [hw]; exact h.ends
  joining hj := by
    rw [hc] at hj
    rw [isStopped_congr hw]
    exact h.joining hj
  owned hj hlive' := by
    rw [he'] at hj
    rw [hw]
    rcases getElem?_set_eq_some hj with ⟨rfl, rfl⟩ | ⟨-, hj⟩
    · rw [hwatch]
      exact h.owned he hlive
    · exact h.owned hj hlive'
  bound {i j'} w hwi ha := by
    rw [hw] at hwi
    rw [he']
    obtain ⟨e'', he'', rfl⟩ := h.bound hwi ha
    by_cases hj : j = j'
    · subst hj
      obtain rfl := Option.some.inj (he.symm.trans he'')
      exact ⟨e', getElem?_set_self_of_eq_some he, hwatch⟩
    · exact ⟨e'', by rw [List.getElem?_set_ne hj, he''], rfl⟩

theorem of_setCall {c : Nat} {p : CallPhase Op} (h : OneSession k) (hs : k'.slot = k.slot)
    (hw : k'.watches = k.watches) (he : k'.episodes = k.episodes)
    (hc : k'.calls = k.calls.set c p) (hp : ∀ ending i d, p ≠ .joining ending i d) :
    OneSession k' := by
  refine h.of_same hs hw he fun {c' _ d ending} hj => ⟨c', ending, d, ?_⟩
  rw [hc, List.getElem?_set] at hj
  split at hj
  · split at hj
    · exact absurd (Option.some.inj hj) (hp _ _ _)
    · cases hj
  · exact hj

theorem beginEpisode {w : Watch Op} {target : Endpoint} (h : OneSession k)
    (hw : k.watches[i]? = some w) (ho : w.episode.all k.episodeOver = true) :
    OneSession (k.beginEpisode i w target) := by
  have hi := (List.getElem?_eq_some_iff.1 hw).1
  have hself : ∀ {v}, k.watches[i]? = some v → v = w :=
    fun hv => Option.some.inj (hv.symm.trans hw)
  simp only [Keeper.beginEpisode, rest_eq, setWatch, record]
  generalize hw' : ({ w with
    episode := some k.episodes.length
    abortable := some k.episodes.length } : Watch Op) = w'
  have hends : (w'.nextPhase (wake k.now k.config.pollInterval)).ends = true → w.stopped = true :=
    fun h => by simpa [← hw'] using Watch.ends_nextPhase h
  refine h.of_modifyWatch (set_eq_modify (fun _ => _) hw) rfl rfl
    (fun hv => by rw [hself hv, ← hw']) (fun hv => hself hv ▸ hends) ?_ ?_
  · intro j e hj hlive
    rcases getElem?_concat_eq_some.1 hj with hold | ⟨rfl, rfl⟩
    · obtain ⟨v, hv, hve, hva, hvo⟩ := h.owned hold hlive
      by_cases hij : i = e.watch
      · subst hij
        obtain rfl := hself hv
        simp [hve, episodeOver, hold, hlive] at ho
      · exact ⟨v, by rw [List.getElem?_set_ne hij]; exact hv, hve, hva, hvo⟩
    · refine ⟨_, List.getElem?_set_self hi, by subst hw'; rfl, by subst hw'; rfl, ?_⟩
      rw [Bool.eq_false_iff]
      intro ho'
      have := Watch.over_nextPhase ho'
      simp [← hw'] at this
  · intro i' j v hv ha
    rcases getElem?_set_eq_some hv with ⟨rfl, rfl⟩ | ⟨-, hv⟩
    · obtain rfl : k.episodes.length = j := by simpa [← hw'] using ha
      exact ⟨_, List.getElem?_concat_length, rfl⟩
    · obtain ⟨e, he, rfl⟩ := h.bound hv ha
      exact ⟨e, getElem?_concat_eq_some.2 (.inl he), rfl⟩

theorem ensureWatch (h : OneSession k) : OneSession k.ensureWatch := by
  unfold Keeper.ensureWatch
  split
  · exact h
  rename_i hpoll
  obtain ⟨hslot, hun, hend, hjoin, hown, hbound⟩ := h
  have hnone : k.slot = none := by
    rcases hs : k.slot with _ | i
    · rfl
    obtain ⟨w, hw, hst⟩ := hslot hs
    have hover : w.phase.over = false := by
      rw [Bool.eq_false_iff]
      intro ho
      have := hend hw (WatchPhase.ends_of_over ho)
      simp [hst] at this
    simp [isPolling, hs, watchOver, hw, hover] at hpoll
  simp only [record]
  exact
    { slot := by
        intro i hi
        cases hi
        exact ⟨{}, by simp, rfl⟩
      unstopped := by
        intro i w hw hst
        rcases getElem?_concat_eq_some.1 hw with hw | ⟨rfl, -⟩
        · have := hun hw hst
          simp [hnone] at this
        · rfl
      ends := by
        intro i w hw he
        rcases getElem?_concat_eq_some.1 hw with hw | ⟨-, rfl⟩
        · exact hend hw he
        · cases he
      joining := fun hj => isStopped_concat rfl (hjoin hj)
      owned := by
        intro j e hj hlive
        obtain ⟨w, hw, howned⟩ := hown hj hlive
        exact ⟨w, getElem?_concat_eq_some.2 (.inl hw), howned⟩
      bound := by
        intro i j w hw ha
        rcases getElem?_concat_eq_some.1 hw with hw | ⟨-, rfl⟩
        · exact hbound hw ha
        · cases ha }

theorem stopSession (h : OneSession k) (hs : k.slot = some i) :
    OneSession ({ k with slot := none }.raiseStop i) := by
  rw [raiseStop_eq]
  exact
    { slot := nofun
      unstopped := by
        intro n v hv hst
        obtain ⟨w, hw, rfl⟩ := getElem?_modify_eq_some.1 hv
        split at hst
        · cases hst
        · rename_i hin
          exact absurd (Option.some.inj (hs.symm.trans (h.unstopped hw hst))) hin
      ends := by
        intro n v hv he
        obtain ⟨w, hw, rfl⟩ := getElem?_modify_eq_some.1 hv
        split at he <;> rename_i hin
        · rw [if_pos hin]
        · rw [if_neg hin]
          exact h.ends hw he
      joining := fun hj => isStopped_modify rfl (fun _ _ => rfl) (h.joining hj)
      owned := by
        intro j e hj hlive
        obtain ⟨w, hw, howned⟩ := h.owned hj hlive
        refine ⟨_, getElem?_modify_eq_some.2 ⟨w, hw, rfl⟩, ?_⟩
        split <;> exact howned
      bound := by
        intro n j v hv ha
        obtain ⟨w, hw, rfl⟩ := getElem?_modify_eq_some.1 hv
        split at ha <;> exact h.bound hw ha }

theorem join {c d : Nat} {ending : Ending} (h : OneSession k) (hs : k.slot = some i) :
    OneSession (({ k with slot := none }.raiseStop i).setCall c (.joining ending i d)) := by
  obtain ⟨w, hw, -⟩ := h.slot hs
  have hst : ({ k with slot := none }.raiseStop i).isStopped i = true := by
    rw [raiseStop_eq, isStopped_iff]
    exact ⟨{ w with stopped := true }, by simp [hw], rfl⟩
  have h' := h.stopSession hs
  refine ⟨h'.slot, h'.unstopped, h'.ends, fun {c' i' d' ending'} hj => ?_, h'.owned, h'.bound⟩
  simp only [setCall, List.getElem?_set] at hj
  split at hj
  · split at hj <;> cases hj
    exact hst
  · exact h'.joining hj

/-- The last episode of a watch is aborted, and perhaps the watch. -/
theorem of_abort {f : Watch Op → Watch Op} (h : OneSession k)
    (hw' : k'.watches = k.watches.modify i f)
    (he : k'.episodes =
      (k.abortableOf i).elim k.episodes fun j => k.episodes.modify j Episode.abort)
    (hs : k'.slot = k.slot) (hc : k'.calls = k.calls) (hstop : ∀ w, (f w).stopped = w.stopped)
    (hends : ∀ {w}, k.watches[i]? = some w → (f w).phase.ends = true → w.stopped = true)
    (hnone : ∀ w, (f w).abortable = none) : OneSession k' := by
  refine h.of_modifyWatch hw' hs hc (fun {w} _ => hstop w) hends ?_ ?_
  · intro j e hj hlive
    rw [he] at hj
    obtain ⟨e₀, he₀, ⟨rfl, hne⟩ | rfl⟩ := getElem?_of_abort hj
    · obtain ⟨w, hw, hwe, hwa, ho⟩ := h.owned he₀ hlive
      have hie : i ≠ e.watch := by
        rintro rfl
        exact hne (by simp [abortableOf, hw, hwa])
      exact ⟨w, hw' ▸ getElem?_modify_eq_some.2 ⟨w, hw, if_neg hie⟩, hwe, hwa, ho⟩
    · rw [e₀.abort_over] at hlive
      cases hlive
  · intro n j v hv ha
    rw [hw'] at hv
    obtain ⟨w, hw, rfl⟩ := getElem?_modify_eq_some.1 hv
    split at ha
    · rw [hnone] at ha
      cases ha
    · obtain ⟨e, he₀, rfl⟩ := h.bound hw ha
      rw [he]
      rcases k.abortableOf i with _ | j'
      · exact ⟨e, he₀, rfl⟩
      · exact getElem?_modify_abort he₀

theorem abortLastEpisode (h : OneSession k) : OneSession (k.abortLastEpisode T i) := by
  obtain ⟨s, hs⟩ := abortLastEpisode_eq T i k
  rw [hs]
  exact h.of_abort rfl rfl rfl rfl (fun _ => rfl) (fun hw he => h.ends hw he) fun _ => rfl

theorem abortWatch (h : OneSession k) (hst : k.isStopped i = true) :
    OneSession ((k.abortWatch T i).abortLastEpisode T i) := by
  obtain ⟨s, hs⟩ := abortWatch_eq T i k
  obtain ⟨s', hs'⟩ := abortLastEpisode_eq T i (k.abortWatch T i)
  have hab : (k.abortWatch T i).abortableOf i = k.abortableOf i :=
    abortableOf_modify (by rw [hs]) Watch.abort_abortable i
  rw [hs', hab, hs]
  simp only [List.modify_modify_eq]
  refine h.of_abort rfl rfl rfl rfl Watch.abort_stopped (fun {w} hw _ => ?_) fun _ => rfl
  simpa [isStopped, hw] using hst

theorem move {a : Actor} (h : OneSession k) (hm : Move T a k k') : OneSession k' := by
  cases hm with
  | say ls => exact h.of_same rfl rfl rfl fun hj => ⟨_, _, _, hj⟩
  | leave hw hi hst =>
    exact h.of_setWatch hw rfl rfl rfl rfl rfl rfl rfl (fun _ => hst)
      fun ho => by rw [Watch.over_lastPhase ho]; rfl
  | sight hw hl hst hu =>
    exact h.of_setWatch hw rfl rfl rfl rfl rfl rfl rfl nofun nofun
  | pumping hw hp ht =>
    exact h.of_setWatch hw rfl rfl rfl rfl rfl rfl rfl nofun nofun
  | pumped ls hw hp ht =>
    rw [rest_eq, forward_eq]
    exact h.of_setWatch hw rfl rfl rfl rfl rfl rfl rfl Watch.ends_nextPhase
      fun ho => by rw [Watch.over_nextPhase ho]; rfl
  | ignore hw hl hst hu hn =>
    rw [rest_eq]
    exact h.of_setWatch hw rfl rfl rfl rfl rfl rfl rfl Watch.ends_nextPhase
      fun ho => by rw [Watch.over_nextPhase ho]; rfl
  | lose hw hl hst hu hseen hs =>
    exact h.of_setWatch hw rfl rfl rfl rfl rfl rfl rfl nofun nofun
  | beginEpisode hw hp ho => exact h.beginEpisode hw ho
  | finish hw hp ho =>
    exact h.of_setWatch hw rfl rfl rfl rfl rfl rfl rfl
      (fun _ => h.ends hw (by rw [hp]; rfl)) fun _ => ho
  | announce he ht hst hl => exact h.of_setEpisode he rfl rfl rfl rfl rfl ht.live
  | timeOut he ht hst hl => exact h.of_setEpisode he rfl rfl rfl rfl rfl ht.live
  | stop he hi hst =>
    rw [stopEpisode_eq]
    exact h.of_setEpisode he rfl rfl rfl rfl rfl hi.live
  | dialing he hp ht => exact h.of_setEpisode he rfl rfl rfl rfl rfl (by rw [hp]; rfl)
  | succeed he hp ht hst ho => exact h.of_setEpisode he rfl rfl rfl rfl rfl (by rw [hp]; rfl)
  | fail ls he hp ht hst ho => exact h.of_setEpisode he rfl rfl rfl rfl rfl (by rw [hp]; rfl)
  | drain he hp ht hst ho =>
    rw [stopEpisode_eq]
    exact h.of_setEpisode he rfl rfl rfl rfl rfl (by rw [hp]; rfl)
  | undo he hp ht hst ho => exact h.of_setEpisode he rfl rfl rfl rfl rfl (by rw [hp]; rfl)
  | closing he hp ht => exact h.of_setEpisode he rfl rfl rfl rfl rfl (by rw [hp]; rfl)
  | undone ls he hp ht =>
    rw [stopEpisode_eq]
    exact h.of_setEpisode he rfl rfl rfl rfl rfl (by rw [hp]; rfl)
  | dial hc hi hs => exact h.of_setCall rfl rfl rfl rfl nofun
  | send hc hi hs => exact h.of_setCall rfl rfl rfl rfl nofun
  | claim hc hr => exact h.of_setCall rfl rfl rfl rfl nofun
  | refuse ls hc hf => exact h.of_setCall rfl rfl rfl rfl nofun
  | messages hc => exact h.of_setCall rfl rfl rfl rfl nofun
  | dialingCall hc ht => exact h.of_setCall rfl rfl rfl rfl nofun
  | dialFailed ls hc ht ho => exact h.of_setCall rfl rfl rfl rfl nofun
  | accept hc ht ho hs => exact h.of_setCall rfl rfl rfl rfl nofun
  | ensure ls hc => exact h.ensureWatch.of_setCall rfl rfl rfl rfl nofun
  | sending hc ht => exact h.of_setCall rfl rfl rfl rfl nofun
  | sent hc ht => exact h.of_setCall rfl rfl rfl rfl nofun
  | join hc hs => exact h.join hs
  | joined hc ho => exact h.abortLastEpisode
  | abort hc ho hd => exact h.abortWatch (h.joining hc)
  | close hcl hu => exact h.of_setCall rfl rfl rfl rfl nofun
  | skip hcl hu =>
    rw [lower_eq]
    exact h.of_setCall rfl rfl rfl rfl nofun
  | closingCall hc ht => exact h.of_setCall rfl rfl rfl rfl nofun
  | closed ls ls' hc ht =>
    rw [lower_eq]
    exact h.of_setCall rfl rfl rfl rfl nofun
  | release hh hn hs => exact (h.stopSession hs).abortLastEpisode

theorem befall {s : Step State} (h : OneSession k) (hb : Befalls k s k') : OneSession k' := by
  cases hb with
  | call r =>
    refine h.of_same rfl rfl rfl fun hj => ?_
    rcases getElem?_concat_eq_some.1 hj with hj | ⟨-, hj⟩
    · exact ⟨_, _, _, hj⟩
    · cases hj
  | pass ms => exact h.of_same rfl rfl rfl fun hj => ⟨_, _, _, hj⟩
  | disturb s => exact h.of_same rfl rfl rfl fun hj => ⟨_, _, _, hj⟩
  | drop => exact h.of_same rfl rfl rfl fun hj => ⟨_, _, _, hj⟩

end OneSession

/-- The number of watches that began. -/
def begun (k : Keeper State Op) : Nat := k.history.countP Event.begins

/-- A number of watches begin between two keepers. -/
def Adds (n : Nat) (k k' : Keeper State Op) : Prop :=
  k'.sessions = k.sessions + n ∧ k'.watches.length = k.watches.length + n ∧ k'.begun = k.begun + n

theorem adds_of_move {T : Transport State Op} {a : Actor} {k k' : Keeper State Op}
    (hm : Move T a k k') : ∃ n, Adds n k k' := by
  unfold Adds begun
  cases hm with
  | ensure ls hc =>
    by_cases hp : k.isPolling = true
    · exact ⟨0, by simp [Keeper.ensureWatch, hp, conclude, say, setCall, record, Event.begins]⟩
    · exact ⟨1, by simp [Keeper.ensureWatch, hp, conclude, say, setCall, record, List.countP_cons,
        Event.begins]⟩
  | join hc hs =>
    refine ⟨0, ?_⟩
    rw [raiseStop_eq]
    simp only [setCall]
    split <;> simp [Event.begins]
  | release _ _ _ =>
    refine ⟨0, ?_⟩
    obtain ⟨s, hs⟩ := abortLastEpisode_eq T _ (raiseStop _ _)
    rw [hs, raiseStop_eq]
    split <;> simp [Event.begins]
  | joined hc ho =>
    obtain ⟨s, hs⟩ := abortLastEpisode_eq T _ k
    exact ⟨0, by rw [hs]; simp⟩
  | abort hc ho hd =>
    obtain ⟨s, hs⟩ := abortWatch_eq T _ k
    obtain ⟨s', hs'⟩ := abortLastEpisode_eq T _ (k.abortWatch T _)
    exact ⟨0, by rw [hs', hs]; simp⟩
  | _ =>
    refine ⟨0, ?_⟩
    simp [say, absorb, setWatch, setCall, setEpisode, rest_eq, forward_eq, stopEpisode_eq, lower_eq,
      record, notify, log, setState, Keeper.beginEpisode, leave, lose, announce, timeOut, succeed,
      restEpisode, conclude, takeQueue, Event.begins]

theorem adds_of_befalls {k k' : Keeper State Op} {s : Step State} (hb : Befalls k s k') :
    Adds 0 k k' := by
  cases hb <;> exact ⟨rfl, rfl, by simp [begun, Keeper.call, record, Event.begins]⟩

/-- A watch that has not ended and whose stop signal is not raised. -/
def Awake (k : Keeper State Op) (i : Nat) : Prop :=
  ∃ w, k.watches[i]? = some w ∧ w.phase.over = false ∧ w.stopped = false

/-- An episode that is not over and whose stop signal is not raised. -/
def Trying (k : Keeper State Op) (j : Nat) : Prop :=
  ∃ e, k.episodes[j]? = some e ∧ e.phase.over = false ∧ k.isStopped e.watch = false

/-- The watch in the slot began an episode last. -/
def Began (k : Keeper State Op) (j : Nat) : Prop :=
  ∃ e w, k.episodes[j]? = some e ∧ k.slot = some e.watch ∧ k.watches[e.watch]? = some w ∧
    w.episode = some j

namespace OneSession

variable {k : Keeper State Op} {i j : Nat}

theorem awake_iff (h : OneSession k) : k.Awake i ↔ k.slot = some i := by
  refine ⟨fun ⟨w, hw, _, hst⟩ => h.unstopped hw hst, fun hs => ?_⟩
  obtain ⟨w, hw, hst⟩ := h.slot hs
  refine ⟨w, hw, ?_, hst⟩
  rw [Bool.eq_false_iff]
  intro ho
  simp [h.ends hw (WatchPhase.ends_of_over ho)] at hst

theorem began_of_trying (h : OneSession k) (hj : k.Trying j) : k.Began j := by
  obtain ⟨e, he, hlive, hst⟩ := hj
  obtain ⟨w, hw, hwe, -, -⟩ := h.owned he hlive
  exact ⟨e, w, he, h.unstopped hw (by simpa [isStopped, hw] using hst), hw, hwe⟩

theorem run {T : Transport State Op} {k k' : Keeper State Op} {ss : List (Step State)}
    (hr : Runs T k ss k') (h : OneSession k) : OneSession k' :=
  hr.under.keeps
    (fun _ hn h => next?_keeps (fun hm h => h.move hm) (fun _ hb => h.befall hb) hn h) h

end OneSession

theorem Began.unique {k : Keeper State Op} {j j' : Nat} (h : k.Began j) (h' : k.Began j') :
    j = j' := by
  obtain ⟨e, w, -, hs, hw, hj⟩ := h
  obtain ⟨e', w', -, hs', hw', hj'⟩ := h'
  rw [← Option.some.inj (hs.symm.trans hs'), hw] at hw'
  obtain rfl := Option.some.inj hw'
  exact Option.some.inj (hj.symm.trans hj')

theorem Adds.trans {k k' k'' : Keeper State Op} {m n : Nat} (h : Adds m k k') (h' : Adds n k' k'') :
    Adds (m + n) k k'' := by
  obtain ⟨hs, hw, hb⟩ := h
  obtain ⟨hs', hw', hb'⟩ := h'
  exact ⟨by omega, by omega, by omega⟩

theorem adds_of_runs {T : Transport State Op} {k k' : Keeper State Op} {ss : List (Step State)}
    (h : Runs T k ss k') : ∃ n, Adds n k k' := by
  have hmove : ∀ {a k₁ k₂}, Move T a k₁ k₂ → (∃ n, Adds n k k₁) → ∃ n, Adds n k k₂ := by
    rintro a k₁ k₂ hm ⟨m, hk⟩
    obtain ⟨n, hn⟩ := adds_of_move hm
    exact ⟨m + n, hk.trans hn⟩
  refine h.under.keeps (fun _ hn hk => next?_keeps hmove (fun _ hb => ?_) hn hk) ⟨0, rfl, rfl, rfl⟩
  obtain ⟨m, hk⟩ := hk
  exact ⟨m, hk.trans (adds_of_befalls hb)⟩

theorem oneSession_fresh {config : LinkConfig} {transport : State} {installed : Bool} :
    OneSession (fresh config transport installed : Keeper State Op) := by
  refine ⟨?_, ?_, ?_, ?_, ?_, ?_⟩ <;> simp [fresh]

/-- In every run one watch at most goes on unstopped, that of the slot, and one episode at most,
which that watch began; the sessions are the watches that began, and never get fewer. -/
theorem one_session {T : Transport State Op} {config : LinkConfig} {transport : State}
    {installed : Bool} {k k' : Keeper State Op} {ss ss' : List (Step State)}
    (h : Runs T (fresh config transport installed) ss k) (h' : Runs T k ss' k') :
    (∀ i, k.Awake i ↔ k.slot = some i) ∧ (∀ i i', k.Awake i → k.Awake i' → i = i') ∧
      (∀ j, k.Trying j → k.Began j) ∧ (∀ j j', k.Trying j → k.Trying j' → j = j') ∧
      k.sessions = k.begun ∧ k.sessions = k.watches.length ∧ k.sessions ≤ k'.sessions := by
  have hone := OneSession.run h oneSession_fresh
  obtain ⟨n, hs, hw, hb⟩ := adds_of_runs h
  obtain ⟨m, hs', -, -⟩ := adds_of_runs h'
  simp only [fresh, begun, List.length_nil, List.countP_nil] at hs hw hb
  refine ⟨fun i => hone.awake_iff, fun i i' hi hi' => ?_, fun j => hone.began_of_trying,
    fun j j' hj hj' => (hone.began_of_trying hj).unique (hone.began_of_trying hj'), ?_, ?_, ?_⟩
  · rw [hone.awake_iff] at hi hi'
    exact Option.some.inj (hi.symm.trans hi')
  · exact hs.trans hb.symm
  · exact hs.trans hw.symm
  · omega

/-- A connection is made and then lost, and the first attempt to get it back takes a while. -/
def lossSteps : List (Step Rehearsal.Stage) :=
  [.call (.connect none none), .resume (.call 0), .resume (.call 0), .resume (.watch 0),
    .disturb { connectDelay := 50 }, .pass 10, .resume (.watch 0), .resume (.episode 0)]

theorem one_session_lost : ∃ k, Runs Rehearsal.stage (fresh {} {} true) lossSteps k ∧
    k.Trying 0 ∧ k.slot = some 0 ∧ k.Awake 0 ∧ k.Began 0 ∧ k.begun = 1 := by
  obtain ⟨k, hr, hj, hs, hn⟩ : ∃ k, Runs Rehearsal.stage (fresh {} {} true) lossSteps k ∧
      k.Trying 0 ∧ k.slot = some 0 ∧ k.sessions = 1 :=
    ⟨_, .cons rfl <| .cons rfl <| .cons rfl <| .cons rfl <| .cons rfl <| .cons rfl <|
      .cons rfl <| .cons rfl <| .nil _, ⟨_, rfl, rfl, rfl⟩, rfl, rfl⟩
  obtain ⟨hawake, -, hbegan, -, hcount, -⟩ := one_session hr (.nil k)
  exact ⟨k, hr, hj, hs, (hawake 0).2 hs, hbegan 0 hj, hcount.symm.trans hn⟩

end Keeper

end SessionKeeper

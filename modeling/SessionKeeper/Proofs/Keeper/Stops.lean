import SessionKeeper.Proofs.Keeper.Endings

/-!
# What a stopped session still does

Once the stop signal of a session is raised its workers send no more notices and ask for no more
connections (`urges_of_run`). An attempt to connect that was in flight goes on, and no other; if it
gets the link back all the same, its episode asks the transport once to disconnect and stops
(`Undoes.run`). `stopped_of_run` has all of this.

What a move does to the episodes is said once (`Fares.move`): nothing, or its own episode goes on,
one begins, or one is aborted. Who moves is not over, but for a log line or the release of the
keeper (`Acts.move`).
-/

namespace SessionKeeper

variable {State Op : Type}

/-- A notice of an actor, or its request to connect. -/
def Event.urges (a : Actor) : Event → Bool
  | noticed who _ | invoked who (.connect _) => who == a
  | _ => false

theorem Event.by_of_urges {a : Actor} {e : Event} (h : e.urges a = true) :
    e.by a = true ∧ e.returns = false := by
  unfold urges at h
  split at h <;> simp_all [Event.by, returns]

namespace Keeper

variable {T : Transport State Op} {k k' : Keeper State Op} {i j : Nat} {a : Actor}

/-- An actor that is not over. -/
def Lives (k : Keeper State Op) : Actor → Prop
  | .watch i => ∃ w, k.watches[i]? = some w ∧ w.phase.over = false
  | .episode j => ∃ e, k.episodes[j]? = some e ∧ e.phase.over = false
  | .call c => ∃ p, k.calls[c]? = some p ∧ p.answer?.isSome = false

inductive Acts (T : Transport State Op) (a : Actor) (k k' : Keeper State Op) : Prop
  | tells (ls : List LogRecord) (h : k' = k.say ls)
  /-- The keeper is let go, and anybody may see to that. -/
  | frees {i : Nat} (hs : k.slot = some i) (hf : k.Free) (h : ∀ b, Move T b k k')
  | lives (h : k.Lives a)

theorem Closes.lives {c : Nat} {ending : Ending} (h : k.Closes c ending) : k.Lives (.call c) := by
  rcases h with ⟨hc, -⟩ | ⟨i, d, hc, -⟩
  · exact ⟨_, hc, rfl⟩
  · exact ⟨_, hc, rfl⟩

theorem Acts.move (hm : Move T a k k') : Acts T a k k' := by
  cases hm with
  | say ls => exact .tells ls rfl
  | release hh hn hs =>
    exact .frees hs ⟨hh, by simpa [Option.isSome_iff_ne_none] using hn⟩ fun _ => .release hh hn hs
  | leave hw hi => exact .lives ⟨_, hw, hi.live⟩
  | sight hw hl => exact .lives ⟨_, hw, hl.idle.live⟩
  | ignore hw hl => exact .lives ⟨_, hw, hl.idle.live⟩
  | lose hw hl => exact .lives ⟨_, hw, hl.idle.live⟩
  | announce he ht => exact .lives ⟨_, he, ht.live⟩
  | timeOut he ht => exact .lives ⟨_, he, ht.live⟩
  | stop he hi => exact .lives ⟨_, he, hi.live⟩
  | close hcl => exact .lives hcl.lives
  | skip hcl => exact .lives hcl.lives
  | _ => exact .lives ⟨_, ‹_›, by simp_all [WatchPhase.over, EpisodePhase.over, CallPhase.answer?]⟩

/-- A watch or an episode leaves the calls alone, and the slot but to have the keeper let go. -/
theorem frame_of_worker (hm : Move T a k k') (ha : ∀ c, a ≠ .call c) :
    k'.calls = k.calls ∧ (k'.slot = k.slot ∨ k.Free) := by
  cases hm with
  | pumped ls hw hp ht =>
    rw [rest_eq, forward_eq]
    exact ⟨rfl, .inl rfl⟩
  | ignore hw hl hst hu hn =>
    rw [rest_eq]
    exact ⟨rfl, .inl rfl⟩
  | beginEpisode hw hp ho =>
    unfold Keeper.beginEpisode
    rw [rest_eq]
    exact ⟨rfl, .inl rfl⟩
  | stop he hi hst =>
    rw [stopEpisode_eq]
    exact ⟨rfl, .inl rfl⟩
  | drain he hp ht hst ho =>
    rw [stopEpisode_eq]
    exact ⟨rfl, .inl rfl⟩
  | undone ls he hp ht =>
    rw [stopEpisode_eq]
    exact ⟨rfl, .inl rfl⟩
  | @release _ _ i hh hn hs =>
    obtain ⟨s, hk⟩ := abortLastEpisode_eq T i ({ k with slot := none }.raiseStop i)
    rw [hk, raiseStop_eq]
    exact ⟨rfl, .inr ⟨hh, by simpa [Option.isSome_iff_ne_none] using hn⟩⟩
  | _ => first | exact ⟨rfl, .inl rfl⟩ | exact (ha _ rfl).elim

theorem calls_release (k : Keeper State Op) : (k.release T).calls = k.calls := by
  unfold Keeper.release
  split
  · rfl
  split
  · rfl
  · rename_i i hi
    obtain ⟨s, hk⟩ := abortLastEpisode_eq T i ({ k with slot := none }.raiseStop i)
    rw [hk, raiseStop_eq]

/-- A call goes on by itself only. -/
theorem calls_of_others {c : Nat} (hm : Move T a k k') (ha : a ≠ .call c) :
    k'.calls[c]? = k.calls[c]? := by
  rcases a with i | j | c'
  case call =>
    have hset : ∀ (l : List (CallPhase Op)) (p : CallPhase Op), (l.set c' p)[c]? = l[c]? :=
      fun l p => List.getElem?_set_ne (by simpa using ha)
    cases hm with
    | say ls => rfl
    | ensure ls hc =>
      have hsame : k.ensureWatch.calls = k.calls := by
        unfold Keeper.ensureWatch
        split <;> rfl
      exact (hset _ _).trans (congrArg (·[c]?) hsame)
    | join hc hs =>
      rw [raiseStop_eq]
      exact hset _ _
    | @joined _ _ _ i =>
      obtain ⟨s, hk⟩ := abortLastEpisode_eq T i k
      rw [hk]
    | @abort _ _ _ i =>
      obtain ⟨s, hk⟩ := abortWatch_eq T i k
      obtain ⟨s', hk'⟩ := abortLastEpisode_eq T i (k.abortWatch T i)
      rw [hk', hk]
    | skip hcl hu =>
      rw [lower_eq]
      exact hset _ _
    | closed ls ls' hc ht =>
      rw [lower_eq]
      exact hset _ _
    | @release _ _ i =>
      obtain ⟨s, hk⟩ := abortLastEpisode_eq T i ({ k with slot := none }.raiseStop i)
      rw [hk, raiseStop_eq]
    | _ => exact hset _ _
  all_goals rw [(frame_of_worker hm (by simp)).1]

/-- A call that is yet to be made has done nothing. -/
theorem deeds_of_unmade {ss : List (Step State)} (hr : Runs T k ss k')
    (h : ∀ c, k.calls.length ≤ c → k.deeds (Event.by (.call c)) = []) :
    ∀ c, k'.calls.length ≤ c → k'.deeds (Event.by (.call c)) = [] := by
  refine hr.keeps (P := fun k => ∀ c, k.calls.length ≤ c → k.deeds (Event.by (.call c)) = [])
    (fun {a k k'} hm h c hc => ?_) (fun {s k k'} hb h c hc => ?_) h
  · have hlen : k'.calls.length = k.calls.length := by
      rcases (Answers.move hm).calls with hsame | ⟨c', p, p', -, hset, -⟩
      · rw [hsame]
      · rw [hset, List.length_set]
    have hstill : ∀ {b}, Move T b k k' → b ≠ .call c → k'.deeds (Event.by (.call c)) = [] :=
      fun hm hb => (deeds_of_move hm fun e he => Event.by_ne he hb).trans (h c (hlen ▸ hc))
    cases Acts.move hm with
    | tells ls hk => exact hk ▸ (deeds_say _ k ls).trans (h c (hlen ▸ hc))
    | frees _ _ hm => exact hstill (hm (.watch 0)) (by simp)
    | lives hl =>
      refine hstill hm ?_
      rintro rfl
      obtain ⟨p, hp, -⟩ := hl
      have := (List.getElem?_eq_some_iff.1 hp).1
      omega
  · refine (deeds_of_befalls _ hb).trans (h c (Nat.le_trans ?_ hc))
    cases hb <;> simp [Keeper.call, record]

/-- What a move of an actor does to the episodes. -/
inductive Fares (a : Actor) (k k' : Keeper State Op) : Prop
  | same (h : k'.episodes = k.episodes)
  | goes {j : Nat} {e e' : Episode Op} (ha : a = .episode j) (he : k.episodes[j]? = some e)
      (h : k'.episodes = k.episodes.set j e') (hlive : e.phase.over = false)
      (hwatch : e'.watch = e.watch)
      (hdial : k.isStopped e.watch = true → ∀ op, e'.phase = .dialing op →
        ∃ op, e.phase = .dialing op)
  /-- The watch of the session has waited for this. -/
  | begins {e : Episode Op} {w w' : Watch Op} (h : k'.episodes = k.episodes ++ [e])
      (hp : e.phase = .starting) (hw : k.watches[e.watch]? = some w)
      (hrep : w.phase.replaces = true) (hw' : k'.watches = k.watches.set e.watch w')
      (hrep' : w'.phase.replaces = false)
  | aborts {o : Option Nat}
      (h : k'.episodes = o.elim k.episodes fun n => k.episodes.modify n Episode.abort)

theorem Fares.move (hm : Move T a k k') : Fares a k k' := by
  cases hm with
  | pumped ls hw hp ht =>
    rw [rest_eq, forward_eq]
    exact .same rfl
  | ignore hw hl hst hu hn =>
    rw [rest_eq]
    exact .same rfl
  | @beginEpisode i _ _ target hw hp ho =>
    simp only [Keeper.beginEpisode, rest_eq, setWatch, record]
    exact .begins rfl rfl hw (by rw [hp]; rfl) rfl (Watch.replaces_nextPhase _ _)
  | announce he ht hst hlt => exact .goes rfl he rfl ht.live rfl (by simp [hst])
  | timeOut he ht hst hl => exact .goes rfl he rfl ht.live rfl (by simp)
  | stop he hi hst =>
    rw [stopEpisode_eq]
    exact .goes rfl he rfl hi.live rfl (by simp)
  | dialing he hp ht => exact .goes rfl he rfl (by rw [hp]; rfl) rfl fun _ _ _ => ⟨_, hp⟩
  | succeed he hp ht hst ho => exact .goes rfl he rfl (by rw [hp]; rfl) rfl (by simp)
  | fail ls he hp ht hst ho => exact .goes rfl he rfl (by rw [hp]; rfl) rfl (by simp)
  | drain he hp ht hst ho =>
    rw [stopEpisode_eq]
    exact .goes rfl he rfl (by rw [hp]; rfl) rfl (by simp)
  | undo he hp ht hst ho => exact .goes rfl he rfl (by rw [hp]; rfl) rfl (by simp)
  | closing he hp ht => exact .goes rfl he rfl (by rw [hp]; rfl) rfl (by simp)
  | undone ls he hp ht =>
    rw [stopEpisode_eq]
    exact .goes rfl he rfl (by rw [hp]; rfl) rfl (by simp)
  | ensure ls hc =>
    have hsame : k.ensureWatch.episodes = k.episodes := by
      unfold Keeper.ensureWatch
      split <;> rfl
    exact .same hsame
  | join hc hs =>
    rw [raiseStop_eq]
    exact .same rfl
  | @joined _ _ _ i =>
    obtain ⟨s, hk⟩ := abortLastEpisode_eq T i k
    rw [hk]
    exact .aborts rfl
  | @abort _ _ _ i =>
    obtain ⟨s, hk⟩ := abortWatch_eq T i k
    obtain ⟨s', hk'⟩ := abortLastEpisode_eq T i (k.abortWatch T i)
    rw [hk', hk]
    exact .aborts rfl
  | skip hcl hu =>
    rw [lower_eq]
    exact .same rfl
  | closed ls ls' hc ht =>
    rw [lower_eq]
    exact .same rfl
  | @release _ _ i =>
    obtain ⟨s, hk⟩ := abortLastEpisode_eq T i ({ k with slot := none }.raiseStop i)
    rw [hk, raiseStop_eq]
    exact .aborts rfl
  | _ => exact .same rfl

theorem getElem?_abort {l : List (Episode Op)} {e : Episode Op} (o : Option Nat)
    (he : l[j]? = some e) :
    (o.elim l fun n => l.modify n Episode.abort)[j]? = some e ∨
      (o.elim l fun n => l.modify n Episode.abort)[j]? = some e.abort := by
  rcases o with _ | n
  · exact .inl he
  · by_cases hn : n = j
    · exact .inr (by simp [hn, he])
    · exact .inl (by simp [hn, he])

/-- An episode stays as it is while others go on, or is aborted. -/
theorem getElem?_of_others {e : Episode Op} (hm : Move T a k k') (ha : a ≠ .episode j)
    (he : k.episodes[j]? = some e) :
    k'.episodes[j]? = some e ∨ k'.episodes[j]? = some e.abort := by
  cases Fares.move hm with
  | same h => exact .inl (h ▸ he)
  | @goes n _ _ hn _ h =>
    have hne : n ≠ j := by
      rintro rfl
      exact ha hn
    exact .inl (by rw [h, List.getElem?_set_ne hne, he])
  | begins h => exact .inl (by rw [h, getElem?_concat_eq_some]; exact .inl he)
  | aborts h => exact h ▸ getElem?_abort _ he

/-- An episode that is over stays as it is. -/
theorem getElem?_of_over {j : Nat} {e : Episode Op} (hm : Move T a k k')
    (he : k.episodes[j]? = some e) (ho : e.phase.over = true) : k'.episodes[j]? = some e := by
  cases Fares.move hm with
  | same h => rw [h, he]
  | @goes n e₀ _ _ he₀ h hlive =>
    have hne : n ≠ j := by
      rintro rfl
      obtain rfl := Option.some.inj (he₀.symm.trans he)
      simp [ho] at hlive
    rw [h, List.getElem?_set_ne hne, he]
  | begins h =>
    rw [h, getElem?_concat_eq_some]
    exact .inl he
  | aborts h =>
    have habort : e.abort = e := if_pos ho
    rw [h]
    rcases getElem?_abort _ he with he' | he'
    · exact he'
    · rw [he', habort]

section Urges

theorem Works.later (hl : Later k k') (ha : k.Works i a) : k'.Works i a := by
  rcases a with j | j | j
  · exact ha
  · obtain ⟨e, he, rfl⟩ := ha
    obtain ⟨e', he', hage⟩ := hl.ages he
    exact ⟨e', he', hage.watch⟩
  · exact ha

theorem deeds_filter {p q : Event → Bool} (h : ∀ e, p e = true → q e = true) :
    (k.deeds q).filter p = k.deeds p := by
  unfold deeds
  rw [List.filter_reverse, List.filter_filter]
  congr 2
  funext e
  rcases hp : p e with _ | _
  · simp
  · simp [h e hp]

/-- A worker of a stopped session neither sends a notice nor asks for a connection. -/
theorem urges_of_move (hst : k.isStopped i = true) (ha : k.Works i a) (hm : Move T a k k') :
    k'.deeds (Event.urges a) = k.deeds (Event.urges a) := by
  rcases a with n | n | n
  · -- of a watch, only the end of a pump is left
    obtain rfl := ha
    have hacts : ∀ e : Event, e.urges (.watch n) = true → e.acts n = true := fun e he => by
      simp [Event.acts, Event.by_of_urges he]
    rw [← deeds_filter hacts, ← deeds_filter hacts, deeds_of_stopped hst hm]
  · obtain ⟨e₀, he₀, rfl⟩ := ha
    have hgoes : ∀ {e}, k.episodes[n]? = some e → k.isStopped e.watch = true := by
      intro e he
      obtain rfl := Option.some.inj (he₀.symm.trans he)
      exact hst
    have hends : ∀ t : Turn State Op,
        (t.ends (.episode n)).filter (Event.urges (.episode n)) = [] := by
      intro t
      unfold Turn.ends
      split
      · rfl
      · simp [Event.urges]
    cases hm with
    | announce he ht hun => simp [hgoes he] at hun
    | timeOut he ht hun => simp [hgoes he] at hun
    | succeed he hp ht hun => simp [hgoes he] at hun
    | release hh hn hs =>
      rw [deeds_abortLastEpisode, deeds_raiseStop]
      rfl
    | stop he hi hs => exact deeds_stopEpisode _ _ rfl
    | drain he hp ht hs ho => exact (deeds_stopEpisode _ _ rfl).trans (by simp [hends])
    | undone ls he hp ht => exact (deeds_stopEpisode _ _ rfl).trans (by simp [hends])
    | _ => simp [restEpisode, hends, Event.urges]
  · exact ha.elim

theorem urges_of_run {ss : List (Step State)} (hr : Runs T k ss k') (hst : k.isStopped i = true)
    (ha : k'.Works i a) : k'.deeds (Event.urges a) = k.deeds (Event.urges a) := by
  induction hr with
  | nil => rfl
  | @cons k k₁ k' s ss hn hr ih =>
    refine (ih ((Later.next hn).stopped hst) ha).trans ?_
    by_cases hs : s = .resume a
    · subst hs
      have hl : Later k k' := .run (.cons hn hr)
      obtain ⟨hready, rfl⟩ := ready_of_resume hn
      -- whoever works for the session in the end did so before this step
      have hnow : k.Works i a := ha.earlier hl hready
      exact (moves_keep (P := fun k₁ => (k₁.isStopped i = true ∧ k₁.Works i a) ∧
          k₁.deeds (Event.urges a) = k.deeds (Event.urges a))
        (fun hm h => ⟨⟨(Later.move hm).stopped h.1.1, h.1.2.later (.move hm)⟩,
          (urges_of_move h.1.1 h.1.2 hm).trans h.2⟩)
        (resume_moves hready) ⟨⟨hst, hnow⟩, rfl⟩).2
    · refine deeds_of_next hn fun b hb e he => ?_
      have hne : b ≠ a := by
        rintro rfl
        rcases hb with hb | rfl
        · exact hs hb
        · exact ha
      rw [← Bool.not_eq_true]
      intro hu
      exact absurd (Event.by_of_urges hu).1 (by simp [Event.by_ne he hne])

end Urges

section Dials

/-- An episode of a session has an attempt to connect in flight. -/
def Dials (k : Keeper State Op) (i j : Nat) : Prop :=
  ∃ e op, k.episodes[j]? = some e ∧ e.watch = i ∧ e.phase = .dialing op

theorem Dials.of_move (hst : k.isStopped i = true) (hm : Move T a k k') (h : k'.Dials i j) :
    k.Dials i j := by
  obtain ⟨e, op, he, rfl, hp⟩ := h
  cases Fares.move hm with
  | same hsame => exact ⟨e, op, hsame ▸ he, rfl, hp⟩
  | goes ha he₀ hset hlive hwatch hdial =>
    rw [hset] at he
    rcases getElem?_set_eq_some he with ⟨rfl, rfl⟩ | ⟨-, he⟩
    · obtain ⟨op₀, hp₀⟩ := hdial (hwatch ▸ hst) op hp
      exact ⟨_, op₀, he₀, hwatch.symm, hp₀⟩
    · exact ⟨e, op, he, rfl, hp⟩
  | begins hbegin hstart =>
    rw [hbegin] at he
    rcases getElem?_concat_eq_some.1 he with he | ⟨-, rfl⟩
    · exact ⟨e, op, he, rfl, hp⟩
    · simp [hstart] at hp
  | aborts habort =>
    rw [habort] at he
    obtain ⟨e₀, he₀, ⟨rfl, -⟩ | rfl⟩ := getElem?_of_abort he
    · exact ⟨e, op, he₀, rfl, hp⟩
    · have hover := e₀.abort_over
      simp [hp, EpisodePhase.over] at hover

theorem Dials.of_run {ss : List (Step State)} (hr : Runs T k ss k') (hst : k.isStopped i = true)
    (h : k'.Dials i j) : k.Dials i j := by
  have hkept : k'.isStopped i = true ∧ ∀ j, k'.Dials i j → k.Dials i j := by
    refine hr.keeps (P := fun k₁ => k₁.isStopped i = true ∧ ∀ j, k₁.Dials i j → k.Dials i j)
      (fun hm hk => ⟨(Later.move hm).stopped hk.1, fun j hj => hk.2 j (hj.of_move hk.1 hm)⟩)
      (fun hb hk => ⟨(Later.befall hb).stopped hk.1, fun j hj => hk.2 j ?_⟩) ⟨hst, fun _ => id⟩
    cases hb <;> exact hj
  exact hkept.2 j h

/-- A session has one attempt in flight at most. -/
theorem Dials.unique {j' : Nat} (h : k.Dials i j) (h1 : OneSession k) (h' : k.Dials i j') :
    j = j' := by
  obtain ⟨e, op, he, rfl, hp⟩ := h
  obtain ⟨e', op', he', hwatch, hp'⟩ := h'
  obtain ⟨w, hw, hj, -⟩ := h1.owned he (by rw [hp]; rfl)
  obtain ⟨w', hw', hj', -⟩ := h1.owned he' (by rw [hp']; rfl)
  rw [hwatch, hw] at hw'
  obtain rfl := Option.some.inj hw'
  exact Option.some.inj (hj.symm.trans hj')

end Dials

section Undoes

/-- What an episode does after `es`, when it has got the link too late and asked the transport to
disconnect: nothing until that is done, and then it stops. -/
inductive Undoes (j : Nat) (es : List Event) (k : Keeper State Op) : Prop
  | closing {e : Episode Op} {op : Op} (he : k.episodes[j]? = some e) (hp : e.phase = .closing op)
      (hd : k.deeds (Event.by (.episode j)) = es)
  | stopped {e : Episode Op} {r : Result} {es' : List Event} (he : k.episodes[j]? = some e)
      (hp : e.phase = .stopped)
      (hd : k.deeds (Event.by (.episode j)) = es ++ .returned (.episode j) r :: es')
      (hes : es' = [] ∨ es' = [.stateSet (.episode j) .disconnected])
  | aborted {e : Episode Op} (he : k.episodes[j]? = some e) (hp : e.phase = .aborted)
      (hd : k.deeds (Event.by (.episode j)) = es)

theorem deeds_stop (k : Keeper State Op) (j : Nat) (e : Episode Op) : ∃ es,
    (k.stopEpisode j e).deeds (Event.by (.episode j)) = k.deeds (Event.by (.episode j)) ++ es ∧
      (es = [] ∨ es = [.stateSet (.episode j) .disconnected]) := by
  simp only [stopEpisode]
  split
  · exact ⟨[_], by simp [Event.by], .inr rfl⟩
  · exact ⟨[], by simp, .inl rfl⟩

namespace Undoes

variable {es : List Event}

theorem of_others (h : Undoes j es k) (ha : a ≠ .episode j) (hm : Move T a k k') :
    Undoes j es k' := by
  have hdeeds := deeds_of_move hm (p := Event.by (.episode j)) fun e he => Event.by_ne he ha
  cases h with
  | closing he hp hd =>
    rcases getElem?_of_others hm ha he with he' | he'
    · exact .closing he' hp (hdeeds.trans hd)
    · exact .aborted he' (by simp [Episode.abort, hp, EpisodePhase.over]) (hdeeds.trans hd)
  | stopped he hp hd hes =>
    refine .stopped ?_ hp (hdeeds.trans hd) hes
    simpa [Episode.abort, hp, EpisodePhase.over] using getElem?_of_others hm ha he
  | aborted he hp hd =>
    refine .aborted ?_ hp (hdeeds.trans hd)
    simpa [Episode.abort, hp, EpisodePhase.over] using getElem?_of_others hm ha he

theorem of_say (h : Undoes j es k) (ls : List LogRecord) : Undoes j es (k.say ls) := by
  cases h with
  | closing he hp hd => exact .closing he hp ((deeds_say _ k ls).trans hd)
  | stopped he hp hd hes => exact .stopped he hp ((deeds_say _ k ls).trans hd) hes
  | aborted he hp hd => exact .aborted he hp ((deeds_say _ k ls).trans hd)

theorem of_closing {e : Episode Op} {op : Op} (he : k.episodes[j]? = some e)
    (hp : e.phase = .closing op) (hd : k.deeds (Event.by (.episode j)) = es)
    (hm : Move T (.episode j) k k') : Undoes j es k' := by
  have hself : ∀ {e'}, k.episodes[j]? = some e' → e = e' :=
    fun he' => Option.some.inj (he.symm.trans he')
  cases hm with
  | say ls => exact (Undoes.closing he hp hd).of_say ls
  | release hh hn hs =>
    exact (Undoes.closing he hp hd).of_others (a := .call 0) (by simp) (.release hh hn hs)
  | closing he' hp' ht =>
    obtain rfl := hself he'
    obtain rfl := EpisodePhase.closing.inj (hp.symm.trans hp')
    refine .closing (getElem?_setEpisode he _) rfl ?_
    simp [hd, Turn.ends, ht]
  | @undone _ _ _ _ r ls he' hp' ht =>
    obtain rfl := hself he'
    obtain rfl := EpisodePhase.closing.inj (hp.symm.trans hp')
    have hends : ((k.absorb (.episode j) (k.turn T op)).say ls).deeds (Event.by (.episode j)) =
        es ++ [.returned (.episode j) r] := by
      simp [hd, Turn.ends, ht, Event.by]
    obtain ⟨es', hes', hes⟩ :=
      deeds_stop ((k.absorb (.episode j) (k.turn T op)).say ls) j e
    refine .stopped (e := { e with phase := .stopped }) ?_ rfl
      (hes'.trans (by rw [hends, List.append_assoc]; rfl)) hes
    rw [stopEpisode_eq]
    simp [absorb, Keeper.say, (List.getElem?_eq_some_iff.1 he).1]
  | _ => simp_all [Episode.Tries, Episode.Idle]

/-- An episode that is over makes no move of its own. -/
theorem of_over (h : Undoes j es k) {e : Episode Op} (he : k.episodes[j]? = some e)
    (hover : e.phase.over = true) (hm : Move T (.episode j) k k') : Undoes j es k' := by
  cases Acts.move hm with
  | tells ls hk => exact hk ▸ h.of_say ls
  | frees _ _ hm => exact h.of_others (a := .call 0) (by simp) (hm _)
  | lives hl =>
    obtain ⟨e', he', hlive⟩ := hl
    obtain rfl := Option.some.inj (he.symm.trans he')
    simp [hover] at hlive

theorem move (h : Undoes j es k) (hm : Move T a k k') : Undoes j es k' := by
  by_cases ha : a = .episode j
  · subst ha
    cases h with
    | closing he hp hd => exact of_closing he hp hd hm
    | stopped he hp hd hes => exact of_over (.stopped he hp hd hes) he (by simp [hp]; rfl) hm
    | aborted he hp hd => exact of_over (.aborted he hp hd) he (by simp [hp]; rfl) hm
  · exact h.of_others ha hm

theorem befall {s : Step State} (h : Undoes j es k) (hb : Befalls k s k') : Undoes j es k' := by
  have hd := deeds_of_befalls (Event.by (.episode j)) hb
  have he : k'.episodes = k.episodes := by cases hb <;> rfl
  cases h with
  | closing he' hp hd' => exact .closing (he ▸ he') hp (hd.trans hd')
  | stopped he' hp hd' hes => exact .stopped (he ▸ he') hp (hd.trans hd') hes
  | aborted he' hp hd' => exact .aborted (he ▸ he') hp (hd.trans hd')

theorem run {ss : List (Step State)} (hr : Runs T k ss k') (h : Undoes j es k) :
    Undoes j es k' :=
  hr.keeps (P := Undoes j es) (fun hm h => h.move hm) (fun hb h => h.befall hb) h

/-- When its attempt gets the link after all, an episode of a stopped session asks the transport
to disconnect. -/
theorem of_late {e : Episode Op} {op : Op} (he : k.episodes[j]? = some e)
    (hp : e.phase = .dialing op) (hst : k.isStopped e.watch = true)
    (ht : (k.turn T op).progress = .done (.ok StatusCode.ok))
    (hu : T.isUp (k.turn T op).state = .ok true) :
    Undoes j (k.deeds (Event.by (.episode j)) ++
      [.returned (.episode j) (.ok StatusCode.ok), .invoked (.episode j) .disconnect])
      (k.resume T (.episode j)) := by
  -- the disconnect is run at once, as if it had been put in place first
  have hgoes : k.resume T (.episode j) = ((k.absorb (.episode j) (k.turn T op)).record
      (.invoked (.episode j) .disconnect)).closeLate T j e (T.start .disconnect) := by
    have hst' : (k.absorb (.episode j) (k.turn T op)).isStopped e.watch = true := hst
    have hout : (k.absorb (.episode j) (k.turn T op)).attemptOutcome T (.ok StatusCode.ok) =
        .ok true := by
      simpa [attemptOutcome, absorb] using hu
    simp [resume, resumeEpisode, he, hp, dial, operate_eq, ht, judge, hst', hout]
  rw [hgoes, ← closeLate_setEpisode { e with phase := .closing (T.start .disconnect) }
    (.closing (T.start .disconnect))]
  have hset := getElem?_setEpisode (k := (k.absorb (.episode j) (k.turn T op)).record
    (.invoked (.episode j) .disconnect)) he { e with phase := .closing (T.start .disconnect) }
  refine moves_keep (P := Undoes j _) (fun hm h => h.move hm) (closeLate_moves hset rfl)
    (.closing hset rfl ?_)
  simp [Turn.ends, ht, Event.by]

/-- When the transport is done with the disconnect, the episode stops. -/
theorem stops {e : Episode Op} {op : Op} {r : Result} (he : k.episodes[j]? = some e)
    (hp : e.phase = .closing op) (ht : (k.turn T op).progress = .done r) :
    (k.resume T (.episode j)).episodes[j]? = some { e with phase := .stopped } := by
  have hset : ∀ {k₁ : Keeper State Op}, k₁.episodes = k.episodes →
      (k₁.stopEpisode j e).episodes[j]? = some { e with phase := .stopped } := by
    intro k₁ hk₁
    rw [stopEpisode_eq, hk₁, getElem?_set_self_of_eq_some he]
  simp only [resume, resumeEpisode, he, hp, closeLate, operate_eq, ht]
  rcases r with f | code
  · exact hset rfl
  · exact hset rfl

end Undoes

end Undoes

/-- A session was stopped. Its workers send no notice and ask for no connection any more. An
attempt is in flight only if it was when the stop came, and it is the only one. If it gets the link
after all, its episode asks the transport once to disconnect, and stops when that is done. -/
theorem stopped_of_run {config : LinkConfig} {transport : State} {installed : Bool}
    {k k' : Keeper State Op} {ss ss' : List (Step State)}
    (h : Runs T (fresh config transport installed) ss k) (hst : k.isStopped i = true)
    (h' : Runs T k ss' k') :
    (∀ a, k'.Works i a → k'.deeds (Event.urges a) = k.deeds (Event.urges a)) ∧
    (∀ j, k'.Dials i j → k.Dials i j) ∧
    (∀ j j', k'.Dials i j → k'.Dials i j' → j = j') ∧
    ∀ (j : Nat) (e : Episode Op) (op : Op), k'.episodes[j]? = some e → e.watch = i →
      e.phase = .dialing op → (k'.turn T op).progress = .done (.ok StatusCode.ok) →
      T.isUp (k'.turn T op).state = .ok true →
      ∀ (ss'' : List (Step State)) (k'' : Keeper State Op),
        Runs T k' (.resume (.episode j) :: ss'') k'' →
        Undoes j (k'.deeds (Event.by (.episode j)) ++
          [.returned (.episode j) (.ok StatusCode.ok), .invoked (.episode j) .disconnect]) k'' ∧
        ∀ (e' : Episode Op) (op' : Op) (r : Result), k''.episodes[j]? = some e' →
          e'.phase = .closing op' → (k''.turn T op').progress = .done r →
          (k''.resume T (.episode j)).episodes[j]? = some { e' with phase := .stopped } := by
  have hst' := (Later.run h').stopped hst
  have h1 := OneSession.run h' (.run h oneSession_fresh)
  refine ⟨fun a => urges_of_run h' hst, fun j => .of_run h' hst,
    fun j j' hd => hd.unique h1, ?_⟩
  rintro j e op he rfl hp ht hu ss'' k'' (_ | ⟨hn, hr⟩)
  obtain ⟨-, rfl⟩ := ready_of_resume hn
  exact ⟨(Undoes.of_late he hp hst' ht hu).run hr, fun e' op' r => Undoes.stops⟩

theorem stopped_of_run_overlapping : ∃ k k' k'',
    Runs Rehearsal.stage (fresh {} {} true) overlapSteps k ∧ k.isStopped 0 = true ∧
    Runs Rehearsal.stage k [.pass 50] k' ∧ k'.Dials 0 0 ∧
    Runs Rehearsal.stage k' [.resume (.episode 0)] k'' ∧
    Undoes 0 (k'.deeds (Event.by (.episode 0)) ++
      [.returned (.episode 0) (.ok 0), .invoked (.episode 0) .disconnect]) k'' := by
  obtain ⟨k, k', k'', e, op, hr, hst, hr', he, hwatch, hp, ht, hu, hr''⟩ : ∃ k k' k'' e op,
      Runs Rehearsal.stage (fresh {} {} true) overlapSteps k ∧ k.isStopped 0 = true ∧
      Runs Rehearsal.stage k [.pass 50] k' ∧ k'.episodes[0]? = some e ∧ e.watch = 0 ∧
      e.phase = .dialing op ∧
      (k'.turn Rehearsal.stage op).progress = .done (.ok StatusCode.ok) ∧
      Rehearsal.stage.isUp (k'.turn Rehearsal.stage op).state = .ok true ∧
      Runs Rehearsal.stage k' [.resume (.episode 0)] k'' :=
    ⟨_, _, _, _, _, .cons rfl <| .cons rfl <| .cons rfl <| .cons rfl <| .cons rfl <|
      .cons rfl <| .cons rfl <| .cons rfl <| .cons rfl <| .cons rfl <| .cons rfl <| .nil _, rfl,
      .cons rfl <| .nil _, rfl, rfl, rfl, rfl, rfl, .cons rfl <| .nil _⟩
  obtain ⟨-, -, -, hundo⟩ := stopped_of_run hr hst hr'
  exact ⟨k, k', k'', hr, hst, hr', ⟨e, op, he, hwatch, hp⟩, hr'',
    (hundo 0 e op he hwatch hp ht hu [] k'' hr'').1⟩

end Keeper

end SessionKeeper

import SessionKeeper.Proofs.Keeper.Deeds
import SessionKeeper.Proofs.Keeper.InTurn
import SessionKeeper.Proofs.Keeper.Later
import SessionKeeper.Proofs.Keeper.Pace

/-!
# Accounts of losses

What a keeper tells its front-end about losses is one account after another: the loss, then the
attempts, numbered from one and with fewer and fewer seconds left, each with its one request to the
transport, and last the end if there was one (`marks_of_run`). The invariant is `Narrates`: the last
account is that of the session in the slot as long as the state is reconnecting, and it tells
of the episode that is not over (`Tells`, `Follows`).
-/

namespace SessionKeeper

variable {State Op : Type}

/-- What a loss and the attempts after it leave in the history. -/
structure Account where
  watch : Nat
  episode : Nat
  target : Endpoint
  /-- The seconds left at each attempt. -/
  left : List UInt64 := []
  ending : Option Notice := none

/-- An attempt is announced, and the transport is asked to connect. -/
def Account.attempt (a : Account) (n : Nat) (left : UInt64) : List Event :=
  [.noticed (.episode a.episode) (.attempt (UInt32.ofNat n) left),
    .invoked (.episode a.episode) (.connect a.target)]

/-- The notices of an account, and the attempts to connect that its episode makes. -/
def Account.marks (timeout : UInt64) (a : Account) : List Event :=
  .noticed (.watch a.watch) (.lost timeout) ::
    (a.left.zipIdx 1).flatMap (fun (left, n) => a.attempt n left) ++
    a.ending.toList.map (.noticed (.episode a.episode))

/-- An account that can be believed. -/
structure Account.Sound (a : Account) : Prop where
  falling : a.left.Pairwise (· > ·)
  ending : ∀ n ∈ a.ending,
    n = .timedOut ∨ n = .reconnected (UInt32.ofNat a.left.length) ∧ a.left ≠ []

/-- A notice, or an attempt of an episode to connect. -/
@[simp]
def Event.marks : Event → Bool
  | noticed _ _ | invoked (.episode _) (.connect _) => true
  | _ => false

@[simp] theorem Turn.marks_ends (who : Actor) (t : Turn State Op) :
    (t.ends who).filter Event.marks = [] := by
  unfold ends
  split
  · rfl
  · simp

namespace Keeper

/-- The notices and the attempts of the episodes to connect, oldest first. -/
abbrev marks (k : Keeper State Op) : List Event := k.deeds Event.marks

theorem state_ensureWatch (k : Keeper State Op) : k.ensureWatch.state = k.state := by
  unfold ensureWatch
  split <;> rfl

/-- An account tells of an episode that is not over. -/
structure Follows (k : Keeper State Op) (a : Account) (e : Episode Op) : Prop where
  target : a.target = e.target
  attempts : a.left.length = e.attempts
  since : e.since ≤ k.now
  starting : e.phase = .starting → a.left = []
  dialing : ∀ {op : Op}, e.phase = .dialing op → a.left ≠ []
  last : ∀ {r : UInt64}, a.left.getLast? = some r → ∃ t, e.since ≤ t ∧ t ≤ k.now ∧
    t - e.since < k.config.reconnectTimeout ∧ r = k.config.remaining (t - e.since) ∧
    ∀ wake, e.phase = .resting wake → t + 1000 ≤ wake

/-- An account tells what the session of watch `i` does while it reconnects. -/
structure Tells (k : Keeper State Op) (i : Nat) (a : Account) : Prop where
  watch : a.watch = i
  ending : a.ending = none
  replacing : ∀ {w : Watch Op}, k.watches[i]? = some w → w.phase.replaces = true → a.left = []
  episode : ∀ {j : Nat} {e : Episode Op}, k.episodes[j]? = some e → e.phase.over = false →
    a.episode = j ∧ k.Follows a e

/-- The accounts of all losses, oldest first. -/
structure Narrates (k : Keeper State Op) (as : List Account) : Prop where
  told : k.marks = as.flatMap (Account.marks k.config.reconnectTimeoutSecs)
  sound : ∀ a ∈ as, a.Sound
  counted : ∀ a ∈ as, a.left ≠ [] →
    ∃ e, k.episodes[a.episode]? = some e ∧ a.left.length ≤ e.attempts
  unended : ∀ {n : Nat} {a : Account}, as[n]? = some a → a.ending = none →
    k.isStopped a.watch = true ∨
      n + 1 = as.length ∧ k.state = .reconnecting ∧ k.slot = some a.watch
  current : ∀ {i : Nat}, k.slot = some i → k.state = .reconnecting →
    ∃ a, as.getLast? = some a ∧ k.Tells i a
  failed : k.state = .failed → ∃ a, as.getLast? = some a ∧ a.ending = some .timedOut

variable {T : Transport State Op} {k k' : Keeper State Op} {as : List Account} {i j : Nat}

theorem Follows.of_phase {a : Account} {e e' : Episode Op} (h : k.Follows a e)
    (hl : Later k k') (ht : e'.target = e.target) (hn : e'.attempts = e.attempts)
    (hs : e'.since = e.since)
    (hstart : e'.phase = .starting → e.phase = .starting)
    (hdial : ∀ op, e'.phase = .dialing op → ∃ op, e.phase = .dialing op)
    (hrest : ∀ wake, e'.phase = .resting wake → e.phase = .resting wake ∨ k.now + 1000 ≤ wake) :
    k'.Follows a e' where
  target := h.target.trans ht.symm
  attempts := h.attempts.trans hn.symm
  since := by rw [hs]; exact Nat.le_trans h.since hl.now
  starting hp := h.starting (hstart hp)
  dialing hp := by
    obtain ⟨op, hp⟩ := hdial _ hp
    exact h.dialing hp
  last hr := by
    obtain ⟨t, hst, htn, hlt, rfl, hwake⟩ := h.last hr
    rw [hl.config, hs]
    refine ⟨t, hst, Nat.le_trans htn hl.now, hlt, rfl, fun wake hp => ?_⟩
    rcases hrest wake hp with hp | hle
    · exact hwake wake hp
    · omega

theorem Tells.of_watches {a : Account} (h : k.Tells i a) (hl : Later k k')
    (he : k'.episodes = k.episodes)
    (hw : ∀ {w : Watch Op}, k'.watches[i]? = some w → w.phase.replaces = true →
      ∃ w, k.watches[i]? = some w ∧ w.phase.replaces = true) : k'.Tells i a where
  watch := h.watch
  ending := h.ending
  replacing hw' hr := by
    obtain ⟨w, hw, hr⟩ := hw hw' hr
    exact h.replacing hw hr
  episode hj hlive := by
    rw [he] at hj
    obtain ⟨ha, hf⟩ := h.episode hj hlive
    exact ⟨ha, hf.of_phase hl rfl rfl rfl id (fun op hp => ⟨op, hp⟩) fun _ hp => .inl hp⟩

namespace Narrates

/-- What leaves no mark leaves the accounts as they are. -/
theorem of_unmarked (h : Narrates k as) (hl : Later k k') (hm : k'.marks = k.marks)
    (hopen : ∀ i, k.slot = some i → k.state = .reconnecting →
      k'.isStopped i = true ∨ k'.state = .reconnecting ∧ k'.slot = some i)
    (hcur : ∀ i, k'.slot = some i → k'.state = .reconnecting →
      k.slot = some i ∧ k.state = .reconnecting ∧ ∀ a, k.Tells i a → k'.Tells i a)
    (hfail : k'.state = .failed → k.state = .failed) : Narrates k' as where
  told := by rw [hm, hl.config]; exact h.told
  sound := h.sound
  counted a ha hne := by
    obtain ⟨e, he, hle⟩ := h.counted a ha hne
    obtain ⟨e', he', -, hle'⟩ := hl.ages he
    exact ⟨e', he', Nat.le_trans hle hle'⟩
  unended ha hn := by
    rcases h.unended ha hn with hs | ⟨hlen, hst, hs⟩
    · exact .inl (hl.stopped hs)
    · exact (hopen _ hs hst).imp id fun ⟨hst, hs⟩ => ⟨hlen, hst, hs⟩
  current hs hst := by
    obtain ⟨hs, hst, htells⟩ := hcur _ hs hst
    obtain ⟨a, ha, ht⟩ := h.current hs hst
    exact ⟨a, ha, htells a ht⟩
  failed hst := h.failed (hfail hst)

/-- The last account is gone on with. -/
theorem of_last {past : List Account} {a a' : Account} (h : Narrates k (past ++ [a]))
    (ms : List Event) (hl : Later k k') (hm : k'.marks = k.marks ++ ms)
    (ha : a'.marks k.config.reconnectTimeoutSecs = a.marks k.config.reconnectTimeoutSecs ++ ms)
    (hsound : a'.Sound)
    (hcount : a'.left ≠ [] → ∃ e, k'.episodes[a'.episode]? = some e ∧ a'.left.length ≤ e.attempts)
    (hopen : a'.ending = none → k'.state = .reconnecting ∧ k'.slot = some a'.watch)
    (hcur : ∀ i, k'.slot = some i → k'.state = .reconnecting → k'.Tells i a')
    (hfail : k'.state = .failed → a'.ending = some .timedOut) : Narrates k' (past ++ [a']) where
  told := by
    rw [hm, hl.config, h.told]
    simp [ha]
  sound b hb := by
    rcases List.mem_append.1 hb with hb | hb
    · exact h.sound b (List.mem_append_left _ hb)
    · rw [List.mem_singleton.1 hb]
      exact hsound
  counted b hb hne := by
    rcases List.mem_append.1 hb with hb | hb
    · obtain ⟨e, he, hle⟩ := h.counted b (List.mem_append_left _ hb) hne
      obtain ⟨e', he', -, hle'⟩ := hl.ages he
      exact ⟨e', he', Nat.le_trans hle hle'⟩
    · obtain rfl := List.mem_singleton.1 hb
      exact hcount hne
  unended {n b} hb hn := by
    rcases getElem?_concat_eq_some.1 hb with hb | ⟨rfl, rfl⟩
    · have hlt := (List.getElem?_eq_some_iff.1 hb).1
      rcases h.unended (n := n) (by rw [List.getElem?_append_left hlt, hb]) hn with hs | ⟨hlen, -⟩
      · exact .inl (hl.stopped hs)
      · simp at hlen
        omega
    · exact .inr ⟨by simp, hopen hn⟩
  current hs hst := ⟨a', by simp, hcur _ hs hst⟩
  failed hst := ⟨a', by simp, hfail hst⟩

theorem of_same (h : Narrates k as) (hl : Later k k') (hm : k'.marks = k.marks)
    (hs : k'.slot = k.slot) (hst : k'.state = k.state) (hw : k'.watches = k.watches)
    (he : k'.episodes = k.episodes) : Narrates k' as := by
  refine h.of_unmarked hl hm (fun i hi hr => .inr ⟨hst.trans hr, hs.trans hi⟩)
    (fun i hi hr => ⟨hs.symm.trans hi, hst.symm.trans hr, fun a ht => ?_⟩) (hst ▸ id)
  exact ht.of_watches hl he fun hw' hr => ⟨_, hw ▸ hw', hr⟩

theorem of_setWatch {w' : Watch Op} (h : Narrates k as) (hl : Later k k') (hm : k'.marks = k.marks)
    (hs : k'.slot = k.slot) (hst : k'.state = k.state) (hw : k'.watches = k.watches.set j w')
    (he : k'.episodes = k.episodes) (hrep : w'.phase.replaces = false) : Narrates k' as := by
  refine h.of_unmarked hl hm (fun i hi hr => .inr ⟨hst.trans hr, hs.trans hi⟩)
    (fun i hi hr => ⟨hs.symm.trans hi, hst.symm.trans hr, fun a ht => ?_⟩) (hst ▸ id)
  refine ht.of_watches hl he fun {w} hw' hr' => ⟨w, ?_, hr'⟩
  rw [hw] at hw'
  rcases getElem?_set_eq_some hw' with ⟨-, rfl⟩ | ⟨-, hw'⟩
  · exact nomatch hrep.symm.trans hr'
  · exact hw'

/-- An episode goes on, and rests for a second at least. -/
theorem of_setEpisode {e e' : Episode Op} (h : Narrates k as) (hl : Later k k')
    (he : k.episodes[j]? = some e) (he' : k'.episodes = k.episodes.set j e')
    (hm : k'.marks = k.marks) (hs : k'.slot = k.slot) (hst : k'.state = k.state)
    (hw : k'.watches = k.watches) (hlive : e.phase.over = false) (ht : e'.target = e.target)
    (hn : e'.attempts = e.attempts) (hsince : e'.since = e.since)
    (hstart : e'.phase ≠ .starting)
    (hdial : ∀ op, e'.phase = .dialing op → ∃ op, e.phase = .dialing op)
    (hrest : ∀ wake, e'.phase = .resting wake → k.now + 1000 ≤ wake) : Narrates k' as := by
  refine h.of_unmarked hl hm (fun i hi hr => .inr ⟨hst.trans hr, hs.trans hi⟩)
    (fun i hi hr => ⟨hs.symm.trans hi, hst.symm.trans hr, fun a ht' => ?_⟩) (hst ▸ id)
  refine ⟨ht'.watch, ht'.ending, fun hw' hr => ht'.replacing (hw ▸ hw') hr,
    fun {j' e''} hj hlive' => ?_⟩
  rw [he'] at hj
  rcases getElem?_set_eq_some hj with ⟨rfl, rfl⟩ | ⟨-, hj⟩
  · obtain ⟨ha, hf⟩ := ht'.episode he hlive
    exact ⟨ha, hf.of_phase hl ht hn hsince (fun hp => absurd hp hstart) hdial
      fun wake hp => .inr (hrest wake hp)⟩
  · obtain ⟨ha, hf⟩ := ht'.episode hj hlive'
    exact ⟨ha, hf.of_phase hl rfl rfl rfl id (fun op hp => ⟨op, hp⟩) fun _ hp => .inl hp⟩

/-- The state becomes one in which no episode is told of. -/
theorem of_lower (h : Narrates k as) (hl : Later k k') (hm : k'.marks = k.marks)
    (hs : k.slot = none ∨ k.state ≠ .reconnecting) (hr : k'.state ≠ .reconnecting)
    (hf : k'.state ≠ .failed) : Narrates k' as := by
  refine h.of_unmarked hl hm (fun i hi hst => ?_) (fun i _ hst => absurd hst hr)
    fun hst => absurd hst hf
  rcases hs with hs | hs
  · simp [hs] at hi
  · exact absurd hst hs

/-- An episode of a session that is stopped ends. -/
theorem of_stopEpisode (h : Narrates k as) (hl : Later k k') (hm : k'.marks = k.marks)
    (hs : k.slot = none) (hs' : k'.slot = k.slot)
    (hst : k'.state = if k.state = .reconnecting then .disconnected else k.state) :
    Narrates k' as := by
  refine h.of_unmarked hl hm (by simp [hs]) (by simp [hs', hs]) fun hf => ?_
  rw [hst] at hf
  split at hf
  · cases hf
  · exact hf

/-- There is no session, and the state stays as it is. -/
theorem of_slotless (h : Narrates k as) (hl : Later k k') (hm : k'.marks = k.marks)
    (hs : ∀ i, k.slot = some i → k'.isStopped i = true) (hs' : k'.slot = none)
    (hst : k'.state = k.state) : Narrates k' as :=
  h.of_unmarked hl hm (fun i hi _ => .inl (hs i hi)) (by simp [hs']) (hst ▸ id)

theorem lose {w : Watch Op} {up : Bool} {target : Endpoint} (h : Narrates k as) (ho : InOrder k)
    (h1 : OneSession k) (hw : k.watches[i]? = some w) (hst : w.stopped = false)
    (hs : k.state ≠ .reconnecting)
    (hl : Later k (((k.record (.looked i up)).lose i).setWatch
      i { w with seenUp := false, phase := .replacing target })) :
    Narrates (((k.record (.looked i up)).lose i).setWatch
      i { w with seenUp := false, phase := .replacing target })
      (as ++ [{ watch := i, episode := 0, target }]) := by
  have hslot := h1.unstopped hw hst
  have hR : ¬ k.Reconnects := fun hr => hs ((ho.reconnecting hslot hw).2 (.inr hr))
  have hm : (((k.record (.looked i up)).lose i).setWatch
      i { w with seenUp := false, phase := .replacing target }).marks =
        k.marks ++ [.noticed (.watch i) (.lost k.config.reconnectTimeoutSecs)] := by
    simp [Keeper.lose, log_eq]
    rfl
  exact
    { told := by
        rw [hm, hl.config, h.told]
        simp [Account.marks]
      sound := by
        intro a ha
        rcases List.mem_append.1 ha with ha | ha
        · exact h.sound a ha
        · rw [List.mem_singleton.1 ha]
          exact ⟨.nil, by simp⟩
      counted := by
        intro a ha hne
        rcases List.mem_append.1 ha with ha | ha
        · exact h.counted a ha hne
        · rw [List.mem_singleton.1 ha] at hne
          exact absurd rfl hne
      unended := by
        intro n a ha hn
        rcases getElem?_concat_eq_some.1 ha with ha | ⟨rfl, rfl⟩
        · rcases h.unended ha hn with hstop | ⟨-, hst, -⟩
          · exact .inl (hl.stopped hstop)
          · exact absurd hst hs
        · exact .inr ⟨by simp, rfl, hslot⟩
      current := by
        intro i' hi' _
        obtain rfl := Option.some.inj (hslot.symm.trans hi')
        refine ⟨_, List.getLast?_concat, rfl, rfl, fun _ _ => rfl, fun hj hlive => ?_⟩
        exact absurd ⟨_, _, hj, hlive⟩ hR
      failed := fun hf => absurd hf (show LinkState.reconnecting ≠ .failed by simp) }

theorem beginEpisode {w : Watch Op} {target : Endpoint} (h : Narrates k as) (ho : InOrder k)
    (h1 : OneSession k) (hw : k.watches[i]? = some w) (hp : w.phase = .replacing target)
    (hl : Later k (k.beginEpisode i w target)) :
    ∃ as, Narrates (k.beginEpisode i w target) as := by
  have hm : (k.beginEpisode i w target).marks = k.marks := by
    simp [Keeper.beginEpisode, rest_eq]
    rfl
  have hslot : (k.beginEpisode i w target).slot = k.slot := by
    simp [Keeper.beginEpisode, rest_eq, setWatch, record]
  have hstate : (k.beginEpisode i w target).state = k.state := by
    simp [Keeper.beginEpisode, rest_eq, setWatch, record]
  rcases hst : w.stopped with _ | _
  · have hs := h1.unstopped hw hst
    have hrec := (ho.reconnecting hs hw).2 (.inl (by rw [hp]; rfl))
    have hR := ho.replacing hs hw (by rw [hp]; rfl)
    obtain ⟨a, ha, ht⟩ := h.current hs hrec
    obtain ⟨past, rfl⟩ := List.getLast?_eq_some_iff.1 ha
    have hleft := ht.replacing hw (by rw [hp]; rfl)
    have hsound := h.sound a (by simp)
    refine ⟨past ++ [{ a with episode := k.episodes.length, target }], h.of_last [] hl
      (by simp [hm]) (by simp [Account.marks, hleft, ht.ending]) ⟨hsound.falling, hsound.ending⟩
      (fun hne => absurd hleft hne) (fun _ => ?_) (fun i' hi' _ => ?_) fun hf => ?_⟩
    · rw [hslot, ht.watch]
      exact ⟨hstate.trans hrec, hs⟩
    · obtain rfl := Option.some.inj (hs.symm.trans (hslot.symm.trans hi'))
      refine ⟨ht.watch, ht.ending, fun _ _ => hleft, fun hj hlive => ?_⟩
      simp only [Keeper.beginEpisode, rest_eq, setWatch, record] at hj
      rcases getElem?_concat_eq_some.1 hj with hj | ⟨rfl, rfl⟩
      · exact absurd ⟨_, _, hj, hlive⟩ hR
      · refine ⟨rfl, rfl, by rw [hleft]; rfl, hl.now, fun _ => hleft, by simp, fun hlast => ?_⟩
        simp [hleft] at hlast
    · cases hrec.symm.trans (hstate.symm.trans hf)
  · obtain ⟨c, ending, d, hc⟩ := ho.stopping hw (by rw [hp]; rfl) hst
    have hs := ho.cleared hc rfl
    exact ⟨as, h.of_slotless hl hm (by simp [hs]) (hslot.trans hs) hstate⟩

/-- The account of the episode of the current session, which is the last one. -/
theorem current_of_live {e : Episode Op} (h : Narrates k as) (ho : InOrder k) (h1 : OneSession k)
    (he : k.episodes[j]? = some e) (hlive : e.phase.over = false)
    (hst : k.isStopped e.watch = false) :
    ∃ past a, as = past ++ [a] ∧ k.slot = some e.watch ∧ k.state = .reconnecting ∧
      k.Tells e.watch a ∧ a.episode = j ∧ k.Follows a e := by
  have hslot := InOrder.slot_of_unstopped h1 he hlive hst
  obtain ⟨w, hw, -⟩ := h1.slot hslot
  have hrec := (ho.reconnecting hslot hw).2 (.inr ⟨j, e, he, hlive⟩)
  obtain ⟨a, ha, ht⟩ := h.current hslot hrec
  obtain ⟨past, rfl⟩ := List.getLast?_eq_some_iff.1 ha
  obtain ⟨hj, hf⟩ := ht.episode he hlive
  exact ⟨past, a, rfl, hslot, hrec, ht, hj, hf⟩

theorem announce {e : Episode Op} (h : Narrates k as) (ho : InOrder k) (h1 : OneSession k)
    (he : k.episodes[j]? = some e) (ht : e.Tries k.now) (hst : k.isStopped e.watch = false)
    (hlt : k.now - e.since < k.config.reconnectTimeout) (hl : Later k (k.announce T j e)) :
    ∃ as, Narrates (k.announce T j e) as := by
  obtain ⟨past, a, rfl, hslot, hrec, htells, hj, hf⟩ := h.current_of_live ho h1 he ht.live hst
  have hlen := (List.getElem?_eq_some_iff.1 he).1
  have hmem : a ∈ past ++ [a] := by simp
  have hr : ∀ {r : UInt64}, a.left.getLast? = some r →
      k.config.remaining (k.now - e.since) < r := by
    intro r hlast
    obtain ⟨t, hsince, -, -, rfl, hwake⟩ := hf.last hlast
    rcases ht with hp | ⟨wake, hle, hp⟩
    · simp [hf.starting hp] at hlast
    · have := hwake wake hp
      exact LinkConfig.remaining_lt (by omega) hlt
  refine ⟨past ++ [{ a with left := a.left ++ [k.config.remaining (k.now - e.since)] }], h.of_last
    (a.attempt (e.attempts + 1) (k.config.remaining (k.now - e.since))) hl
    ?_ ?_ ⟨?_, ?_⟩ ?_ ?_ ?_ ?_⟩
  · simp [Keeper.announce, Event.marks, Account.attempt, LinkConfig.remaining, hj, hf.target]
  · simp [Account.marks, htells.ending, List.zipIdx_append, hf.attempts, Account.attempt,
      Nat.add_comm]
  · refine pairwise_concat_of_getLast ?_ (h.sound a hmem).falling fun r hlast => ?_
    · exact fun hab hbc => UInt64.lt_trans hbc hab
    · exact hr hlast
  · simp [htells.ending]
  · exact fun _ => ⟨_, by rw [hj]; exact List.getElem?_set_self hlen, by simp [hf.attempts]⟩
  · exact fun _ => ⟨hrec, hslot.trans (congrArg some htells.watch.symm)⟩
  · intro i hi _
    obtain rfl := Option.some.inj (hslot.symm.trans hi)
    refine ⟨htells.watch, htells.ending, fun hw hrep => ?_, fun {j' e'} hj' hlive' => ?_⟩
    · exact absurd ⟨j, e, he, ht.live⟩ (ho.replacing hslot hw hrep)
    rcases getElem?_set_eq_some hj' with ⟨rfl, rfl⟩ | ⟨hne, hj'⟩
    · refine ⟨hj, hf.target, by simp [hf.attempts], hf.since, by simp, by simp, fun hlast => ?_⟩
      simp only [List.getLast?_concat, Option.some.injEq] at hlast
      exact ⟨k.now, hf.since, Nat.le_refl _, hlt, hlast.symm, by simp⟩
    · exact absurd (hj.symm.trans (htells.episode hj' hlive').1) hne
  · exact fun hf => by cases hrec.symm.trans hf

/-- The episode of the current session ends, and says so. -/
theorem of_end {e : Episode Op} {n : Notice} (h : Narrates k as) (ho : InOrder k)
    (h1 : OneSession k) (hl : Later k k') (he : k.episodes[j]? = some e)
    (hlive : e.phase.over = false) (hst : k.isStopped e.watch = false)
    (hm : k'.marks = k.marks ++ [.noticed (.episode j) n])
    (hn : n = .timedOut ∨ n = .reconnected (UInt32.ofNat e.attempts) ∧ ∃ op, e.phase = .dialing op)
    (hr : k'.state ≠ .reconnecting) (hfail : k'.state = .failed → n = .timedOut) :
    ∃ as, Narrates k' as := by
  obtain ⟨past, a, rfl, hslot, hrec, htells, hj, hf⟩ := h.current_of_live ho h1 he hlive hst
  have ha : a ∈ past ++ [a] := by simp
  refine ⟨past ++ [{ a with ending := some n }], h.of_last _ hl hm ?_
    ⟨(h.sound a ha).falling, ?_⟩ ?_ nofun (fun _ _ hst => absurd hst hr)
    fun hst => congrArg some (hfail hst)⟩
  · simp [Account.marks, Account.attempt, htells.ending, hj]
  · rintro n' ⟨⟩
    refine hn.imp id fun ⟨hn, op, hp⟩ => ⟨by rw [hf.attempts, hn], hf.dialing hp⟩
  · intro hne
    obtain ⟨e', he', hle⟩ := h.counted a ha hne
    obtain ⟨e'', he'', -, hle'⟩ := hl.ages he'
    exact ⟨e'', he'', Nat.le_trans hle hle'⟩

theorem move {a : Actor} (h : Narrates k as) (ho : InOrder k) (h1 : OneSession k)
    (hi : 0 < k.config.reconnectIntervalSecs) (hm : Move T a k k') : ∃ as, Narrates k' as := by
  have hl := Later.move hm
  cases hm with
  | say ls => exact ⟨as, h.of_same hl (by simp) rfl rfl rfl rfl⟩
  | leave hw hid hst =>
    exact ⟨as, h.of_setWatch hl rfl rfl rfl rfl rfl (Watch.replaces_lastPhase _)⟩
  | sight hw hlo hst hu =>
    exact ⟨as, h.of_setWatch hl (by simp) rfl rfl rfl rfl rfl⟩
  | pumping hw hp ht => exact ⟨as, h.of_setWatch hl (by simp) rfl rfl rfl rfl rfl⟩
  | pumped ls hw hp ht =>
    rw [rest_eq, forward_eq] at hl ⊢
    refine ⟨as, h.of_setWatch hl ?_ rfl rfl rfl rfl (Watch.replaces_nextPhase _ _)⟩
    rw [← forward_eq]
    simp
  | ignore hw hlo hst hu hn =>
    rw [rest_eq] at hl ⊢
    exact ⟨as, h.of_setWatch hl (by simp) rfl rfl rfl rfl
      (Watch.replaces_nextPhase _ _)⟩
  | lose hw hlo hst hu hseen hs => exact ⟨_, h.lose ho h1 hw hst hs hl⟩
  | beginEpisode hw hp _ => exact h.beginEpisode ho h1 hw hp hl
  | finish hw hp _ => exact ⟨as, h.of_setWatch hl rfl rfl rfl rfl rfl rfl⟩
  | announce he ht hst hlt => exact h.announce ho h1 he ht hst hlt hl
  | timeOut he ht hst _ =>
    exact h.of_end ho h1 hl he ht.live hst (by simp [timeOut, log_eq]) (.inl rfl)
      (show LinkState.failed ≠ .reconnecting by simp) fun _ => rfl
  | stop he hid hst =>
    exact ⟨as, h.of_stopEpisode hl (deeds_stopEpisode k _ rfl)
      (ho.slot_of_stopped h1 he hid.live hst) (by rw [stopEpisode_eq]) (by rw [stopEpisode_eq])⟩
  | dialing he hp ht =>
    exact ⟨as, h.of_setEpisode hl he rfl (by simp) rfl rfl rfl (by rw [hp]; rfl) rfl rfl rfl
      (by simp) (fun _ _ => ⟨_, hp⟩) (by simp)⟩
  | succeed he hp ht hst _ =>
    exact h.of_end ho h1 hl he (by rw [hp]; rfl) hst (by simp [succeed, log_eq])
      (.inr ⟨rfl, _, hp⟩) (show LinkState.connected ≠ .reconnecting by simp)
      fun hf => absurd hf (show LinkState.connected ≠ .failed by simp)
  | fail ls he hp ht hst _ =>
    refine ⟨as, h.of_setEpisode hl he rfl (by simp [restEpisode]) rfl rfl rfl (by rw [hp]; rfl) rfl
      rfl rfl (by simp) (by simp) fun wake' hwake => ?_⟩
    cases hwake
    exact Nat.add_le_add_left (LinkConfig.le_pause hi) _
  | drain he hp ht hst _ =>
    exact ⟨as, h.of_stopEpisode hl ((deeds_stopEpisode _ _ rfl).trans (by simp))
      (ho.slot_of_stopped h1 he (by rw [hp]; rfl) hst)
      (by rw [stopEpisode_eq]; rfl) (by rw [stopEpisode_eq]; rfl)⟩
  | undo he hp ht hst _ =>
    exact ⟨as, h.of_setEpisode hl he rfl (by simp) rfl rfl rfl (by rw [hp]; rfl) rfl
      rfl rfl (by simp) (by simp) (by simp)⟩
  | closing he hp ht =>
    exact ⟨as, h.of_setEpisode hl he rfl (by simp) rfl rfl rfl (by rw [hp]; rfl) rfl rfl rfl
      (by simp) (fun _ _ => by simp at *) (by simp)⟩
  | undone ls he hp ht =>
    exact ⟨as, h.of_stopEpisode hl ((deeds_stopEpisode _ _ rfl).trans (by simp))
      (ho.slot_of_stopped h1 he (by rw [hp]; rfl) (ho.late he hp))
      (by rw [stopEpisode_eq]; rfl) (by rw [stopEpisode_eq]; rfl)⟩
  | accept hc ht _ hs =>
    refine ⟨as, h.of_lower hl ?_ (.inr hs) (show LinkState.connected ≠ .reconnecting by simp)
      (show LinkState.connected ≠ .failed by simp)⟩
    simp only [deeds_setCall, deeds_setState]
    exact (List.append_nil _).trans ((deeds_absorb _ k _ _).trans (by simp))
  | ensure ls hc =>
    rcases hp : k.isPolling with _ | _
    · have hs : k.slot = none := by
        rcases hs : k.slot with _ | i
        · rfl
        · obtain ⟨w, hw, hlive, -⟩ := h1.awake_iff.2 hs
          simp [isPolling, hs, watchOver, hw, hlive] at hp
      have hst := ho.recorded hc hs
      have hst' : k.ensureWatch.state = .connected := by rw [state_ensureWatch, hst]
      exact ⟨as, h.of_lower hl (by simp) (.inl hs) (fun hr => by cases hst'.symm.trans hr)
        fun hf => by cases hst'.symm.trans hf⟩
    · have hself : k.ensureWatch = k := by simp [Keeper.ensureWatch, hp]
      rw [hself] at hl ⊢
      exact ⟨as, h.of_same hl (by simp) rfl rfl rfl rfl⟩
  | join hc hs =>
    rw [raiseStop_eq] at hl ⊢
    refine ⟨as, h.of_slotless hl ?_ (fun i' hi' => ?_) rfl rfl⟩
    · rw [← raiseStop_eq]
      exact deeds_raiseStop _ { k with slot := none } _
    · obtain ⟨w, hw, -⟩ := h1.slot hs
      obtain rfl := Option.some.inj (hs.symm.trans hi')
      exact isStopped_iff.2 ⟨{ w with stopped := true }, by simp [setCall, hw], rfl⟩
  | joined hc _ =>
    obtain ⟨s, hk⟩ := abortLastEpisode_eq T _ k
    have hs := ho.cleared hc rfl
    rw [hk] at hl ⊢
    exact ⟨as, h.of_slotless hl rfl (by simp [hs]) hs rfl⟩
  | abort hc _ hd =>
    obtain ⟨s, hk⟩ := abortWatch_eq T _ k
    obtain ⟨s', hk'⟩ := abortLastEpisode_eq T _ (k.abortWatch T _)
    have hs := ho.cleared hc rfl
    rw [hk', hk] at hl ⊢
    exact ⟨as, h.of_slotless hl rfl (by simp [hs]) hs rfl⟩
  | skip hcl hu =>
    obtain ⟨p, -, -, hs, -⟩ := ho.of_closes hcl
    rw [lower_eq] at hl ⊢
    refine ⟨as, h.of_lower hl ?_ (.inl hs) (show LinkState.disconnected ≠ .reconnecting by simp)
      (show LinkState.disconnected ≠ .failed by simp)⟩
    rw [← lower_eq]
    exact (deeds_conclude _ _ _ _).trans (deeds_lower _ rfl)
  | closed ls ls' hc ht =>
    have hs := ho.cleared hc rfl
    rw [lower_eq] at hl ⊢
    refine ⟨as, h.of_lower hl ?_ (.inl hs) (show LinkState.disconnected ≠ .reconnecting by simp)
      (show LinkState.disconnected ≠ .failed by simp)⟩
    rw [← lower_eq]
    simp only [deeds_conclude, deeds_say]
    exact (deeds_lower _ rfl).trans (by simp)
  | release hh hn hs => simp [ho.held] at hh
  | close hcl hu => exact ⟨as, h.of_same hl (by simp) rfl rfl rfl rfl⟩
  | claim hc hr => exact ⟨as, h.of_same hl rfl rfl rfl rfl rfl⟩
  | dial hc hin hs => exact ⟨as, h.of_same hl (by simp) rfl rfl rfl rfl⟩
  | send hc hin hs => exact ⟨as, h.of_same hl (by simp) rfl rfl rfl rfl⟩
  | refuse ls hc hf => exact ⟨as, h.of_same hl (by simp) rfl rfl rfl rfl⟩
  | messages hc =>
    exact ⟨as, h.of_same hl (by simp) rfl rfl rfl rfl⟩
  | dialingCall hc ht => exact ⟨as, h.of_same hl (by simp) rfl rfl rfl rfl⟩
  | dialFailed ls hc ht _ => exact ⟨as, h.of_same hl (by simp) rfl rfl rfl rfl⟩
  | sending hc ht => exact ⟨as, h.of_same hl (by simp) rfl rfl rfl rfl⟩
  | sent hc ht => exact ⟨as, h.of_same hl (by simp) rfl rfl rfl rfl⟩
  | closingCall hc ht => exact ⟨as, h.of_same hl (by simp) rfl rfl rfl rfl⟩

theorem befall {s : Step State} (h : Narrates k as) (hok : InTurn k s) (hb : Befalls k s k') :
    Narrates k' as := by
  have hl := Later.befall hb
  cases hb with
  | call r => exact h.of_same hl (by simp [Keeper.call]; rfl) rfl rfl rfl rfl
  | pass ms => exact h.of_same hl rfl rfl rfl rfl rfl
  | disturb s => exact h.of_same hl rfl rfl rfl rfl rfl
  | drop => exact hok.elim

theorem fresh {config : LinkConfig} {transport : State} {installed : Bool} :
    Narrates (Keeper.fresh config transport installed : Keeper State Op) [] := by
  refine ⟨rfl, nofun, nofun, nofun, ?_, nofun⟩
  intro i hi
  cases hi

theorem run {config : LinkConfig} {transport : State} {installed : Bool} {ss : List (Step State)}
    (hr : RunsUnder T InTurn (Keeper.fresh config transport installed) ss k)
    (hi : 0 < config.reconnectIntervalSecs) : k.config = config ∧ ∃ as, Narrates k as := by
  have hmove : ∀ {a} {k k' : Keeper State Op}, Move T a k k' →
      (OneSession k ∧ InOrder k) ∧ k.config = config ∧ (∃ as, Narrates k as) →
        (OneSession k' ∧ InOrder k') ∧ k'.config = config ∧ ∃ as, Narrates k' as :=
    fun hm ⟨⟨h1, ho⟩, hcfg, as, h⟩ => ⟨⟨h1.move hm, ho.move h1 hm⟩,
      (Later.move hm).config.trans hcfg, h.move ho h1 (hcfg ▸ hi) hm⟩
  refine (hr.keeps (fun hok hn h => next?_keeps hmove (fun _ hb => ?_) hn h)
    ⟨⟨oneSession_fresh, .fresh⟩, rfl, [], .fresh⟩).2
  obtain ⟨⟨h1, ho⟩, hcfg, as, h⟩ := h
  exact ⟨⟨h1.befall hb, ho.befall hok hb⟩, (Later.befall hb).config.trans hcfg, as, h.befall hok hb⟩

end Narrates

end Keeper

end SessionKeeper

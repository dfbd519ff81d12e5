import SessionKeeper.Proofs.Keeper.Pace
import SessionKeeper.Proofs.Keeper.Timeline

/-!
# The course of an episode

The attempts of an episode that is not stopped, and the pauses between them, fix all that it does
and when. `Course` says so for what was seen of an episode; a step of the episode takes its course
on (`Course.resume`), and so does every run in which the episode is not late (`OnCourse.run`).
-/

namespace SessionKeeper

variable {State Op : Type}

namespace Keeper

section Script

variable (pause : Nat) (c : LinkConfig) (i : Nat) (e : Episode Op) (ts : List Try)

/-- An announcement of attempt `n + 1`, and its request. -/
def announcement (target : Endpoint) (n after : Nat) : List Event :=
  [.noticed (.episode i) (.attempt (UInt32.ofNat (n + 1)) (c.remaining after)),
    .invoked (.episode i) (.connect target)]

def announced (n after : Nat) : List Sight :=
  (announcement c i e.target n after).map (stamp (e.since + after) false)

/-- Attempts, each at its time. -/
def tried : List Sight :=
  ts.zipIdx.flatMap fun (t, n) => announced c i e n (elapsed pause (ts.take n)) ++
    [⟨e.since + elapsed pause (ts.take n) + t.took, .returned (.episode i) t.result, t.up⟩]

/-- What an episode does after its attempts so far. -/
def ending : List Sight :=
  match e.phase with
  | .dialing _ => announced c i e ts.length (elapsed pause ts)
  | .succeeded =>
    [⟨e.since + elapsed pause ts - pause, .stateSet (.episode i) .connected, false⟩,
      ⟨e.since + elapsed pause ts - pause,
        .noticed (.episode i) (.reconnected (UInt32.ofNat ts.length)), false⟩]
  | .timedOut =>
    [⟨e.since + elapsed pause ts, .stateSet (.episode i) .failed, false⟩,
      ⟨e.since + elapsed pause ts, .noticed (.episode i) .timedOut, false⟩]
  | _ => []

/-- Where an episode is that was not stopped, after its attempts so far. -/
def Stands (now : Nat) : Prop :=
  match e.phase with
  | .starting => ts = [] ∧ e.attempts = 0 ∧ now = e.since
  | .dialing _ => (∀ t ∈ ts, t.won = false) ∧ e.attempts = ts.length + 1 ∧
      elapsed pause ts < c.reconnectTimeout ∧ e.since + elapsed pause ts ≤ now
  | .resting wake => (∀ t ∈ ts, t.won = false) ∧ e.attempts = ts.length ∧
      wake = e.since + elapsed pause ts ∧ now ≤ wake
  | .succeeded => e.attempts = ts.length ∧ ∃ t, ts.getLast? = some t ∧ t.won = true
  | .timedOut => (∀ t ∈ ts, t.won = false) ∧ e.attempts = ts.length ∧
      c.reconnectTimeout ≤ elapsed pause ts
  | .closing _ | .stopped | .aborted => False

/-- The course of an episode that was not stopped: what came of its attempts, where it is, and what
was seen of it. -/
structure Course (now : Nat) (seen : List Sight) : Prop where
  inTime : ∀ n < ts.length, elapsed pause (ts.take n) < c.reconnectTimeout
  failed : ∀ t ∈ ts.dropLast, t.won = false
  stands : Stands pause c e ts now
  seen : seen = tried pause c i e ts ++ ending pause c i e ts

variable {pause c i e ts}

theorem tried_concat (t : Try) : tried pause c i e (ts ++ [t]) = tried pause c i e ts ++
    announced c i e ts.length (elapsed pause ts) ++
      [⟨e.since + elapsed pause ts + t.took, .returned (.episode i) t.result, t.up⟩] := by
  unfold tried
  rw [List.zipIdx_append, List.flatMap_append, List.append_assoc]
  congr 1
  · refine List.flatMap_congr fun ⟨u, n⟩ hu => ?_
    have := List.snd_lt_of_mem_zipIdx hu
    simp only [List.take_append_of_le_length (show n ≤ ts.length by omega)]
  · simp

@[simp] theorem tried_update (n : Nat) (p : EpisodePhase Op) :
    tried pause c i { e with attempts := n, phase := p } ts = tried pause c i e ts := rfl

@[simp] theorem announced_update (n : Nat) (p : EpisodePhase Op) :
    announced c i { e with attempts := n, phase := p } = announced c i e := rfl

end Script

theorem attemptOutcome_eq_true {T : Transport State Op} {r : Result} {k : Keeper State Op} :
    k.attemptOutcome T r = .ok true ↔ Result.won r (k.linkUp T) = true := by
  unfold attemptOutcome linkUp Result.won
  rcases r with f | code
  · simp
  · by_cases hc : code = StatusCode.ok
    · rcases T.isUp k.transport with f | up <;> simp [hc]
    · simp [hc]

variable {T : Transport State Op} {k k' : Keeper State Op} {i : Nat} {e : Episode Op}
  {ts : List Try} {seen : List Sight} {c : LinkConfig}

theorem deeds_announce : (k.announce T i e).deeds (Event.by (.episode i)) =
    k.deeds (Event.by (.episode i)) ++
      announcement k.config i e.target e.attempts (k.now - e.since) := by
  simp [announce, announcement, LinkConfig.remaining, Event.by]

theorem dial_announce : (k.announce T i e).dial T i
    { e with attempts := e.attempts + 1, phase := .dialing (T.start (.connect e.target)) }
    (T.start (.connect e.target)) =
      (k.notify (.episode i) (.attempt (UInt32.ofNat (e.attempts + 1))
          (k.config.remaining (k.now - e.since)))
        |>.record (.invoked (.episode i) (.connect e.target))
        |>.dial T i { e with attempts := e.attempts + 1 } (T.start (.connect e.target))) :=
  dial_setEpisode (e := { e with attempts := e.attempts + 1 }) _ _ _

/-- What a turn of an attempt comes to while the stop signal is not raised: it waits on, or the
episode succeeds, or it rests. -/
theorem dial_cases (op : Op) (he : k.episodes[i]? = some e) (hst : k.isStopped e.watch = false)
    (hk : k.dial T i e op = k') :
    (∃ op', k'.episodes[i]? = some { e with phase := .dialing op' } ∧
      k'.deeds (Event.by (.episode i)) = k.deeds (Event.by (.episode i))) ∨
    (∃ r, Result.won r (k'.linkUp T) = true ∧
      k'.episodes[i]? = some { e with phase := .succeeded } ∧
      k'.deeds (Event.by (.episode i)) = k.deeds (Event.by (.episode i)) ++
        [.returned (.episode i) r, .stateSet (.episode i) .connected,
          .noticed (.episode i) (.reconnected (UInt32.ofNat e.attempts))]) ∨
    ∃ r, Result.won r (k'.linkUp T) = false ∧
      k'.episodes[i]? =
        some { e with phase := .resting (wake k.now k.config.reconnectInterval) } ∧
      k'.deeds (Event.by (.episode i)) = k.deeds (Event.by (.episode i)) ++
        [.returned (.episode i) r] := by
  have hi := (List.getElem?_eq_some_iff.1 he).1
  have hby : ∀ r, Event.by (.episode i) (.returned (.episode i) r) = true := by
    simp [Event.by]
  subst hk
  unfold dial
  rw [operate_eq]
  rcases ht : (k.turn T op).progress with op' | r
  · exact .inl ⟨op', by simp [setEpisode, absorb, hi], by simp [Turn.ends, ht]⟩
  have hstop : (k.absorb (.episode i) (k.turn T op)).isStopped e.watch = false := hst
  have hends : ((k.turn T op).ends (.episode i)).filter (Event.by (.episode i)) =
      [.returned (.episode i) r] := by
    simp [Turn.ends, ht, hby]
  simp only [judge, hstop]
  rcases ho : (k.absorb (.episode i) (k.turn T op)).attemptOutcome T r with f | (_ | _)
  · refine .inr (.inr ⟨r, ?_, by simp [restEpisode, setEpisode, absorb, log, record, hi], ?_⟩)
    · refine Bool.eq_false_iff.2 fun hw => ?_
      cases ho.symm.trans (attemptOutcome_eq_true.2 hw)
    · simp [restEpisode, log_eq, hends]
  · refine .inr (.inr ⟨r, ?_, by simp [restEpisode, setEpisode, absorb, hi], ?_⟩)
    · refine Bool.eq_false_iff.2 fun hw => ?_
      cases ho.symm.trans (attemptOutcome_eq_true.2 hw)
    · simp [restEpisode, hends]
  · refine .inr (.inl ⟨r, attemptOutcome_eq_true.1 ho, ?_, ?_⟩)
    · simp [succeed, setEpisode, absorb, log, record, setState, notify, hi]
    · simp [succeed, log_eq, hends, Event.by]

variable (T) in
/-- An episode has gone on, and what was seen of it before is the beginning of its course. -/
def Advances (pause i : Nat) (seen : List Sight) (k k' : Keeper State Op) : Prop :=
  ∃ e' ts es, k'.episodes[i]? = some e' ∧
    k'.deeds (Event.by (.episode i)) = k.deeds (Event.by (.episode i)) ++ es ∧
    Course pause k.config i e' ts k.now (seen ++ es.map (stamp k.now (k'.linkUp T)))

namespace Course

variable {pause : Nat}

/-- An attempt under way ends: what was seen is that of one attempt more. -/
theorem concat {op : Op} (h : Course pause c i e ts k.now seen) (hp : e.phase = .dialing op)
    (r : Result) (up : Bool) (p : EpisodePhase Op) :
    ∃ t : Try, t.won = Result.won r up ∧ e.since + elapsed pause ts + t.took = k.now ∧
      (∀ n < (ts ++ [t]).length, elapsed pause ((ts ++ [t]).take n) < c.reconnectTimeout) ∧
      seen ++ [⟨k.now, .returned (.episode i) r, up⟩] =
        tried pause c i { e with phase := p } (ts ++ [t]) := by
  obtain ⟨hin, -, hstands, hseen⟩ := h
  simp only [Stands, hp] at hstands
  obtain ⟨-, -, hlt, hnow⟩ := hstands
  have htook : e.since + elapsed pause ts + (k.now - (e.since + elapsed pause ts)) = k.now := by
    omega
  refine ⟨⟨k.now - (e.since + elapsed pause ts), r, up⟩, rfl, htook, fun n hn => ?_, ?_⟩
  · simp only [List.length_append, List.length_singleton] at hn
    by_cases hlast : n = ts.length
    · rw [hlast, List.take_left]
      exact hlt
    · rw [List.take_append_of_le_length (by omega)]
      exact hin n (by omega)
  · rw [hseen, tried_concat, htook]
    simp only [ending, hp]
    rfl

/-- A turn of an attempt takes the course on. -/
theorem dial {op : Op} (h : Course pause k.config i e ts k.now seen)
    (hpause : pause = k.config.pause) (hp : e.phase = .dialing op)
    (he : k.episodes[i]? = some e) (hst : k.isStopped e.watch = false) :
    Advances T pause i seen k (k.dial T i e op) := by
  have hstands := h.stands
  simp only [Stands, hp] at hstands
  obtain ⟨hall, hatt, hlt, hnow⟩ := hstands
  generalize hk : k.dial T i e op = k'
  rcases dial_cases op he hst hk with ⟨op', he', hd⟩ | ⟨r, hwon, he', hd⟩ | ⟨r, hwon, he', hd⟩
  · refine ⟨_, ts, [], he', by simpa using hd, h.inTime, h.failed, ⟨hall, hatt, hlt, hnow⟩, ?_⟩
    rw [h.seen]
    simp [ending, hp]
  · obtain ⟨t, ht, htook, hin, hseen⟩ := h.concat hp r (k'.linkUp T) .succeeded
    have hend : e.since + (elapsed pause ts + t.took + pause) - pause = k.now := by omega
    refine ⟨_, ts ++ [t], _, he', hd, hin, by simpa using hall,
      ⟨by simpa using hatt, t, by simp, ht.trans hwon⟩, ?_⟩
    rw [← hseen, List.append_assoc]
    simp [stamp, Event.returns, ending, hend, hatt]
  · obtain ⟨t, ht, htook, hin, hseen⟩ := h.concat hp r (k'.linkUp T)
      (.resting (wake k.now k.config.reconnectInterval))
    refine ⟨_, ts ++ [t], _, he', hd, hin, by simpa using hall,
      ⟨fun u hu => ?_, by simpa using hatt, ?_, Nat.le_add_right _ _⟩, ?_⟩
    · rcases List.mem_append.1 hu with hu | hu
      · exact hall u hu
      · rw [List.mem_singleton.1 hu, ht, hwon]
    · rw [elapsed_concat, ← htook]
      simp only [wake, hpause, LinkConfig.pause]
      omega
    · rw [← hseen, List.append_assoc]
      simp [stamp, Event.returns, ending]

/-- Where an episode stands that tries next. -/
theorem stands_of_tries (h : Course pause c i e ts k.now seen) (ht : e.Tries k.now) :
    (∀ t ∈ ts, t.won = false) ∧ e.attempts = ts.length ∧ k.now = e.since + elapsed pause ts := by
  have hstands := h.stands
  rcases ht with hp | ⟨wake, hle, hp⟩ <;> simp only [Stands, hp] at hstands
  · obtain ⟨rfl, hn, hnow⟩ := hstands
    exact ⟨nofun, hn, hnow⟩
  · obtain ⟨hall, hn, hwake, hnow⟩ := hstands
    exact ⟨hall, hn, by omega⟩

/-- The announcement of an attempt takes the course on. -/
theorem announce (h : Course pause c i e ts k.now seen) (ht : e.Tries k.now)
    (hlt : k.now - e.since < c.reconnectTimeout) (op : Op) :
    Course pause c i { e with attempts := e.attempts + 1, phase := .dialing op } ts k.now
      (seen ++ (announcement c i e.target e.attempts (k.now - e.since)).map
        (stamp k.now false)) := by
  obtain ⟨hall, hn, hnow⟩ := h.stands_of_tries ht
  have helapsed : k.now - e.since = elapsed pause ts := by omega
  refine ⟨h.inTime, h.failed, ⟨hall, by rw [hn], by omega, Nat.le_of_eq hnow.symm⟩, ?_⟩
  have hend : ending pause c i e ts = [] := by
    rcases ht with hp | ⟨wake, -, hp⟩ <;> simp [ending, hp]
  rw [h.seen, hend, helapsed, hn, hnow]
  simp [ending, announced]

/-- The end without a connection takes the course on. -/
theorem timeOut (h : Course pause c i e ts k.now seen) (ht : e.Tries k.now)
    (hle : c.reconnectTimeout ≤ k.now - e.since) (up : Bool) :
    Course pause c i ({ e with phase := .timedOut } : Episode Op) ts k.now
      (seen ++ [.stateSet (.episode i) .failed, .noticed (.episode i) .timedOut].map
        (stamp k.now up)) := by
  obtain ⟨hall, hn, hnow⟩ := h.stands_of_tries ht
  refine ⟨h.inTime, h.failed, ⟨hall, hn, by omega⟩, ?_⟩
  have hend : ending pause c i e ts = [] := by
    rcases ht with hp | ⟨wake, -, hp⟩ <;> simp [ending, hp]
  rw [h.seen, hend, hnow]
  simp [ending, stamp, Event.returns]

theorem attempt (h : Course pause k.config i e ts k.now seen) (hpause : pause = k.config.pause)
    (ht : e.Tries k.now) (he : k.episodes[i]? = some e) (hst : k.isStopped e.watch = false) :
    Advances T pause i seen k (k.attempt T i e) := by
  have hi := (List.getElem?_eq_some_iff.1 he).1
  unfold Keeper.attempt
  simp only [hst, Bool.false_eq_true, if_false]
  by_cases hlate : k.config.reconnectTimeout ≤ k.now - e.since
  · rw [if_pos hlate]
    refine ⟨_, ts, _, ?_, ?_, h.timeOut ht hlate _⟩
    · simp [Keeper.timeOut, setEpisode, log, record, setState, notify, hi]
    · simp [Keeper.timeOut, log_eq, Event.by]
  rw [if_neg hlate, log_eq]
  generalize [LogRecord.mk _ _ _] = ls
  -- The first turn of the attempt is one of an attempt under way.
  have hann := h.announce ht (Nat.lt_of_not_le hlate) (T.start (.connect e.target))
  obtain ⟨e', ts', es, he', hd, hc⟩ := Course.dial (T := T) (k := (k.say ls).announce T i e) hann
    hpause rfl (getElem?_setEpisode (k := (k.say ls).notify _ _ |>.record _) he _) hst
  rw [dial_announce] at he' hd hc
  rw [deeds_announce, deeds_say, List.append_assoc] at hd
  refine ⟨e', ts', _ ++ es, he', hd, ?_⟩
  rw [List.map_append, ← List.append_assoc]
  exact hc

/-- An episode takes its course when it goes on. -/
theorem resume (h : Course pause k.config i e ts k.now seen) (hpause : pause = k.config.pause)
    (hr : k.ready T (.episode i) = true) (he : k.episodes[i]? = some e)
    (hst : k.isStopped e.watch = false) :
    Advances T pause i seen k (k.resume T (.episode i)) := by
  have hstands := h.stands
  simp only [ready, he, Option.any_some, episodeReady] at hr
  simp only [Keeper.resume, resumeEpisode, he]
  rcases hp : e.phase with _ | op | op | wake | _ | _ | _ | _ <;>
    simp only [hp, Stands] at hr hstands ⊢
  · rw [log_eq]
    obtain ⟨e', ts', es, he', hd, hc⟩ :=
      Course.attempt (T := T) (k := k.say _) h hpause (.inl hp) he hst
    rw [deeds_say] at hd
    exact ⟨e', ts', es, he', hd, hc⟩
  · exact h.dial hpause hp he hst
  · simp only [hst, Bool.false_or, decide_eq_true_eq] at hr
    rw [if_neg (by simp [hst])]
    exact h.attempt hpause (.inr ⟨wake, hr, hp⟩) he hst
  all_goals cases hr

/-- Time passes and the course stays, for an episode that is not late. -/
theorem pass {ms : Nat} (h : Course pause c i e ts k.now seen) (he : k.episodes[i]? = some e)
    (hok : Punctual T (.episode i) k (.pass ms)) : Course pause c i e ts (k.now + ms) seen := by
  refine ⟨h.inTime, h.failed, ?_, h.seen⟩
  have hstands := h.stands
  have hready : ∀ t, k.now ≤ t → t < k.now + ms → { k with now := t }.episodeReady T e = false := by
    intro t ht ht'
    simpa [ready, he] using hok t ht ht'
  simp only [episodeReady] at hready
  unfold Stands at hstands ⊢
  rcases hp : e.phase with _ | op | op | wake | _ | _ | _ | _ <;>
    simp only [hp] at hready hstands ⊢
  · obtain ⟨hts, hn, hnow⟩ := hstands
    refine ⟨hts, hn, ?_⟩
    by_contra hne
    have := hready k.now (Nat.le_refl _) (by omega)
    cases this
  · obtain ⟨hall, hn, hlt, hnow⟩ := hstands
    exact ⟨hall, hn, hlt, by omega⟩
  · obtain ⟨hall, hn, hwake, hnow⟩ := hstands
    refine ⟨hall, hn, hwake, ?_⟩
    by_contra hlt
    have := hready wake hnow (by omega)
    simp at this
  all_goals exact hstands

end Course

/-- What is seen of an episode is its course, unless its session has been stopped. -/
structure OnCourse (c : LinkConfig) (i : Nat) (seen : List Sight) (k : Keeper State Op) :
    Prop where
  sessions : OneSession k
  config : k.config = c
  unseen : k.episodes[i]? = none → seen = []
  course : ∀ e, k.episodes[i]? = some e → k.isStopped e.watch = false →
    ∃ ts, Course c.pause c i e ts k.now seen

namespace OnCourse

theorem rests (h : OnCourse c i seen k) (h1 : OneSession k') (hr : Rests i k k') :
    OnCourse c i seen k' := by
  have hnone : k'.episodes[i]? = none → k.episodes[i]? = none := by
    intro hn
    rcases he : k.episodes[i]? with _ | e
    · rfl
    · obtain ⟨e', he', -⟩ := hr.later.ages he
      rw [hn] at he'
      cases he'
  refine ⟨h1, hr.later.config.trans h.config, fun hn => h.unseen (hnone hn), fun e he hst => ?_⟩
  rw [hr.now]
  rcases hr.spares e he hst with he₀ | ⟨hn, hp, hs, ha⟩
  · refine h.course e he₀ (Bool.eq_false_iff.2 fun hst₀ => ?_)
    rw [hr.later.stopped hst₀] at hst
    cases hst
  · refine ⟨[], nofun, nofun, ?_, ?_⟩
    · simp [Stands, hp, hs, ha]
    · simp [h.unseen hn, tried, ending, hp]

theorem resume (h : OnCourse c i seen k) (hr : k.ready T (.episode i) = true) :
    OnCourse c i (seen ++ sights T (.episode i) k (k.resume T (.episode i)))
      (k.resume T (.episode i)) := by
  have hmoves := resume_moves hr
  have hl : Later k (k.resume T (.episode i)) := moves_keep
    (fun hm h => h.trans (.move hm)) hmoves (.of_same rfl (Nat.le_refl _) rfl rfl)
  have hnow : (k.resume T (.episode i)).now = k.now := moves_keep
    (fun hm h => (now_of_move hm).trans h) hmoves rfl
  obtain ⟨e, he, -⟩ := (Option.any_eq_true _ _).1 hr
  obtain ⟨e₁, he₁, ha⟩ := hl.ages he
  refine ⟨moves_keep (fun hm h => h.move hm) hmoves h.sessions, hl.config.trans h.config,
    fun hn => (nomatch hn.symm.trans he₁), fun e' he' hst => ?_⟩
  obtain rfl := Option.some.inj (he₁.symm.trans he')
  rw [ha.watch] at hst
  have hst₀ : k.isStopped e.watch = false := by
    refine Bool.eq_false_iff.2 fun hs => ?_
    rw [hl.stopped hs] at hst
    cases hst
  obtain ⟨ts, hc⟩ := h.course e he hst₀
  have hcfg := h.config
  subst hcfg
  obtain ⟨e', ts', es, he', hd, hc'⟩ := hc.resume rfl hr he hst₀
  obtain rfl := Option.some.inj (he₁.symm.trans he')
  rw [sights_of_deeds hd, hnow]
  exact ⟨ts', hc'⟩

theorem befall {s : Step State} (h : OnCourse c i seen k) (hok : Punctual T (.episode i) k s)
    (hb : Befalls k s k') : OnCourse c i seen k' ∧
      k'.deeds (Event.by (.episode i)) = k.deeds (Event.by (.episode i)) := by
  have h1 := h.sessions.befall hb
  have hl := Later.befall hb
  cases hb with
  | call r =>
    have hd : (k.call r).deeds (Event.by (.episode i)) = k.deeds (Event.by (.episode i)) := by
      simp only [call, deeds_record]
      exact List.append_nil _
    exact ⟨h.rests h1 ⟨hl, rfl, .of_same rfl, hd⟩, hd⟩
  | pass ms =>
    refine ⟨⟨h1, h.config, h.unseen, fun e he hst => ?_⟩, rfl⟩
    obtain ⟨ts, hc⟩ := h.course e he hst
    exact ⟨ts, hc.pass he hok⟩
  | disturb s => exact ⟨h.rests h1 ⟨hl, rfl, .of_same rfl, rfl⟩, rfl⟩
  | drop => exact ⟨h.rests h1 ⟨hl, rfl, .of_same rfl, rfl⟩, rfl⟩

theorem next {s : Step State} (h : OnCourse c i seen k) (hok : Punctual T (.episode i) k s)
    (hn : k.next? T s = some k') : OnCourse c i (seen ++ sights T (.episode i) k k') k' := by
  have hrest : ∀ {k₁ : Keeper State Op} {a}, OnCourse c i seen k₁ →
      k₁.deeds (Event.by (.episode i)) = k.deeds (Event.by (.episode i)) →
      Relation.ReflTransGen (Move T a) k₁ k' → a ≠ .episode i →
      OnCourse c i (seen ++ sights T (.episode i) k k') k' := by
    intro k₁ a hc hd hm ha
    obtain ⟨h1, hr⟩ := Rests.moves hc.sessions hm ha
    rw [sights_eq_nil (hr.deeds.trans hd), List.append_nil]
    exact hc.rests h1 hr
  rcases next?_cases hn with ⟨a, -, hr, rfl⟩ | ⟨k₁, hb, hk⟩
  · by_cases ha : a = .episode i
    · subst ha
      exact h.resume hr
    · exact hrest h rfl (resume_moves hr) ha
  · obtain ⟨hc, hd⟩ := h.befall hok hb
    rcases hk with rfl | rfl
    · exact hrest (a := .call 0) hc hd .refl nofun
    · exact hrest hc hd (release_moves (.call 0) k₁) nofun

/-- What is seen of an episode in a run is its course. -/
theorem run {ss : List (Step State)} (hr : RunsUnder T (Punctual T (.episode i)) k ss k')
    (h : OnCourse c i seen k) : OnCourse c i (seen ++ timeline T (.episode i) k ss) k' := by
  induction hr generalizing seen with
  | nil k => simpa [timeline] using h
  | cons hok hn _ ih =>
    simpa [timeline, hn] using ih (h.next hok hn)

end OnCourse

end Keeper

end SessionKeeper

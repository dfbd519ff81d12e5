import SessionKeeper.Proofs.Keeper.Course

/-!
# How an episode paces its attempts

The course of an episode bounds the number of its attempts and the time it takes (`Course.paced`).
`course_of_run` puts this together with what a run shows of the episode. The pause between two
attempts is the interval of the settings, but never more than thirty years (`pause_overlong`).
-/

namespace SessionKeeper

variable {State Op : Type} {c : LinkConfig} {pause : Nat} {ts : List Try}

namespace Keeper

namespace Course

variable {T : Transport State Op} {k : Keeper State Op} {i now : Nat} {e : Episode Op}
  {seen : List Sight}

theorem won_iff (h : Course pause c i e ts now seen) :
    e.phase = .succeeded ↔ ∃ t ∈ ts, t.won = true := by
  have hstands := h.stands
  unfold Stands at hstands
  constructor
  · intro hp
    simp only [hp] at hstands
    obtain ⟨-, t, ht, hwon⟩ := hstands
    exact ⟨t, List.mem_of_getLast? ht, hwon⟩
  · rintro ⟨t, ht, hwon⟩
    have hlost : ¬ ∀ t ∈ ts, t.won = false := fun hall => nomatch (hall t ht).symm.trans hwon
    rcases hp : e.phase with _ | op | op | wake | _ | _ | _ | _ <;> simp only [hp] at hstands
    · rw [hstands.1] at ht
      cases ht
    · exact absurd hstands.1 hlost
    · exact absurd hstands.1 hlost
    · rfl
    · exact absurd hstands.1 hlost

/-- The attempts that were made began in time. -/
theorem begun (h : Course pause c i e ts now seen) {n : Nat} (hn : n < e.attempts) :
    n ≤ ts.length ∧ elapsed pause (ts.take n) < c.reconnectTimeout := by
  have hstands := h.stands
  unfold Stands at hstands
  have hlen : e.attempts = ts.length →
      n ≤ ts.length ∧ elapsed pause (ts.take n) < c.reconnectTimeout :=
    fun ha => ⟨by omega, h.inTime n (by omega)⟩
  rcases hp : e.phase with _ | op | op | wake | _ | _ | _ | _ <;> simp only [hp] at hstands
  · omega
  · obtain ⟨-, ha, hlt, -⟩ := hstands
    by_cases hlast : n = ts.length
    · rw [hlast, List.take_length]
      exact ⟨Nat.le_refl _, hlt⟩
    · exact ⟨by omega, h.inTime n (by omega)⟩
  · exact hlen hstands.2.1
  · exact hlen hstands.1
  · exact hlen hstands.2.1

theorem attempts_le (h : Course c.pause c i e ts now seen) (hpos : 0 < c.pause) :
    e.attempts ≤ c.mostAttempts := by
  by_contra hlt
  obtain ⟨hle, hbegun⟩ := h.begun (Nat.lt_of_not_le hlt)
  have hmul := mul_le_elapsed c.pause (ts.take c.mostAttempts)
  rw [List.length_take, Nat.min_eq_left hle] at hmul
  exact Nat.lt_irrefl _ ((LinkConfig.lt_mostAttempts hpos _).2 (by omega))

theorem remaining_lt (h : Course c.pause c i e ts now seen) (hpause : 1000 ≤ c.pause) {n m : Nat}
    (hnm : n < m) (hm : m < e.attempts) :
    c.remaining (elapsed c.pause (ts.take m)) < c.remaining (elapsed c.pause (ts.take n)) := by
  obtain ⟨hle, hlt⟩ := h.begun hm
  have happart := elapsed_take_le c.pause hnm hle
  exact LinkConfig.remaining_lt (by omega) hlt

theorem next (h : Course pause k.config i e ts k.now seen) (he : k.episodes[i]? = some e)
    (hr : k.ready T (.episode i) = false) (hall : ∀ t ∈ ts, t.won = false)
    (hnow : e.since + elapsed pause ts ≤ k.now) :
    if elapsed pause ts < k.config.reconnectTimeout then ∃ op, e.phase = .dialing op
    else e.phase = .timedOut := by
  have hwon := h.won_iff
  have hstands := h.stands
  simp only [ready, he, Option.any_some, episodeReady] at hr
  unfold Stands at hstands
  rcases hp : e.phase with _ | op | op | wake | _ | _ | _ | _ <;> simp only [hp] at hr hstands
  · cases hr
  · rw [if_pos hstands.2.2.1]
    exact ⟨op, rfl⟩
  · obtain ⟨-, -, hwake, -⟩ := hstands
    simp only [Bool.or_eq_false_iff, decide_eq_false_iff_not] at hr
    omega
  · obtain ⟨t, ht, htrue⟩ := hwon.1 hp
    rw [hall t ht] at htrue
    cases htrue
  · rw [if_neg (Nat.not_lt.2 hstands.2.2)]

theorem ends (h : Course c.pause c i e ts now seen) (hpos : 0 < c.pause) {d : Nat}
    (hd : ∀ t ∈ ts, t.took ≤ d)
    (hdial : ∀ op, e.phase = .dialing op → now ≤ e.since + elapsed c.pause ts + d) :
    e.phase.over = true ∨ now ≤ e.since + c.mostAttempts * (d + c.pause) := by
  have hle := elapsed_le c.pause hd
  have hmost := Nat.mul_le_mul_right (d + c.pause) (h.attempts_le hpos)
  have hstands := h.stands
  unfold Stands at hstands
  rcases hp : e.phase with _ | op | op | wake | _ | _ | _ | _ <;> simp only [hp] at hstands
  · exact .inr (by omega)
  · obtain ⟨-, ha, -, -⟩ := hstands
    rw [ha, Nat.succ_mul] at hmost
    have := hdial op hp
    exact .inr (by omega)
  · obtain ⟨-, ha, hwake, hnow⟩ := hstands
    rw [ha] at hmost
    exact .inr (by omega)
  · exact .inl rfl
  · exact .inl rfl

end Course

/-- A connection is lost, and two attempts to get it back fail, the second after thirty years. -/
def overlongSteps : List (Step Rehearsal.Stage) :=
  [.call (.connect none none), .resume (.call 0), .resume (.call 0), .resume (.watch 0),
    .disturb { fallback := { dial := .code (-3) } }, .pass 10, .resume (.watch 0),
    .resume (.episode 0), .pass longestWait, .resume (.episode 0)]

end Keeper

end SessionKeeper

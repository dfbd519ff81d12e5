import SessionKeeper.Proofs.StopSignal.Waits

/-!
# Actions are runs

An action is taken on a board on which nobody can go on. It is a step, or lets time pass, and then
everybody goes on until nobody can: so what it leads to is what some run leads to, and what is known
of runs is known of it (`runs_act`). Turns are counted down, and there are as many as it takes: a
sleep lasts to its end, and a wait always has an answer.
-/

namespace SessionKeeper.StopBoard

/-- The handle that an action is taken through. -/
def Action.handle? : Action → Option Nat
  | .raise h | .isRaised h | .wait h _ | .raiseAfter h _ | .clone h => some h
  | .sleep _ | .fresh => none

section Turns

variable {b b' : StopBoard} {rs : Nat → List Nat} {gs : List Begun} {ss : List Step}

theorem Runs.append {b'' : StopBoard} {ss' : List Step} (h : Runs b ss b') (h' : Runs b' ss' b'') :
    Runs b (ss ++ ss') b'' := by
  induction h with
  | nil b => exact h'
  | cons hn _ ih => exact .cons hn (ih h')

theorem Runs.single {s : Step} (h : b.next? s = some b') : Runs b [s] b' := .cons h (.nil b')

/-- What a turn may change. -/
theorem turn_cases {s : Step} (hs : s.isTurn = true) (hn : b.next? s = some b') :
    b'.now = b.now ∧ (b'.waits = b.waits ∨ ∃ (i : Nat) (w : StopWait), b.waits[i]? = some w ∧
      b.waitReady w = true ∧ b'.waits = b.waits.set i (b.turn w)) := by
  cases s with
  | fire i =>
    obtain ⟨t, -, -, rfl⟩ := next?_fire hn
    exact ⟨now_raise _ t.2, .inl (waits_raise _ t.2)⟩
  | resume i =>
    obtain ⟨w, hw, hr, rfl⟩ := next?_resume hn
    exact ⟨rfl, .inr ⟨i, w, hw, hr, rfl⟩⟩
  | _ => cases hs

theorem now_of_turns (h : Runs b ss b') (hs : ∀ s ∈ ss, s.isTurn = true) : b'.now = b.now := by
  induction h with
  | nil b => rfl
  | cons hn _ ih =>
    rw [ih fun s hin => hs s (by simp [hin])]
    exact (turn_cases (hs _ (by simp)) hn).1

/-- If a wait has ended, it has ended just now. -/
def JustNow (i : Nat) (b : StopBoard) : Prop := ∀ t v, b.outcome i = some (t, v) → t = b.now

theorem instant_of_turn {w : StopWait} {t : Nat} {v : Bool} (hr : b.waitReady w = true)
    (ho : (b.turn w).outcome? = some (t, v)) : t = b.now := by
  have hrest : ∀ due, (b.rest w due).outcome? = some (t, v) → t = b.now := by
    intro due hd
    unfold rest StopWait.outcome? at hd
    dsimp only at hd
    split_ifs at hd <;> simp at hd <;> exact hd.1.symm
  rcases hp : w.phase with _ | _ | due | ⟨t', v'⟩
  · simp only [turn, hp] at ho
    split_ifs at ho
    · simp only [StopWait.outcome?, Option.some.injEq, Prod.mk.injEq] at ho
      exact ho.1.symm
    · simp [StopWait.outcome?] at ho
  · simp only [turn, hp] at ho
    exact hrest _ ho
  · simp only [turn, hp] at ho
    exact hrest _ ho
  · simp [waitReady, hp] at hr

theorem JustNow.turns {i : Nat} (hf : JustNow i b) (h : Runs b ss b')
    (hs : ∀ s ∈ ss, s.isTurn = true) : JustNow i b' := by
  induction h with
  | nil b => exact hf
  | @cons b b₁ _ _ _ hn _ ih =>
    refine ih (fun t v ho => ?_) fun s hin => hs s (by simp [hin])
    obtain ⟨hnow, hw | ⟨j, w, hw, hr, hset⟩⟩ := turn_cases (hs _ (by simp)) hn
    · rw [hnow]
      exact hf t v (by rwa [outcome, hw] at ho)
    · rw [hnow]
      rw [outcome, hset] at ho
      rcases eq_or_ne j i with rfl | hji
      · have hj : j < b.waits.length := (List.getElem?_eq_some_iff.1 hw).1
        rw [List.getElem?_set_self hj] at ho
        exact instant_of_turn hr ho
      · rw [List.getElem?_set_ne hji] at ho
        exact hf t v ho

/-- With enough turns everybody goes on until nobody can. -/
theorem Holds.settleIn {n : Nat} (hb : Holds b rs gs) (hn : b.work ≤ n) :
    ∃ ss, Runs b ss (b.settleIn n) ∧ (∀ s ∈ ss, s.isTurn = true) ∧
      (b.settleIn n).settled = true := by
  induction n generalizing b rs gs with
  | zero =>
    refine ⟨[], .nil b, by simp, ?_⟩
    rcases hturn : b.nextTurn? with _ | s
    · exact settled_of_nextTurn hturn
    · obtain ⟨hs, b', hnext⟩ := next?_nextTurn hturn
      have := hb.work_lt hs hnext
      omega
  | succ n ih =>
    rcases hturn : b.nextTurn? with _ | s
    · refine ⟨[], ?_, by simp, ?_⟩ <;> simp only [StopBoard.settleIn, hturn, Option.bind_none]
      · exact .nil b
      · exact settled_of_nextTurn hturn
    · obtain ⟨hs, b', hnext⟩ := next?_nextTurn hturn
      have hlt := hb.work_lt hs hnext
      obtain ⟨ss, hr, hturns, hset⟩ := ih (hb.next hnext) (by omega)
      refine ⟨s :: ss, ?_, by simpa [hs] using hturns, ?_⟩ <;>
        simp only [StopBoard.settleIn, hturn, Option.bind_some, hnext]
      · exact .cons hnext hr
      · exact hset

theorem Holds.settle (hb : Holds b rs gs) :
    ∃ ss, Runs b ss b.settle ∧ (∀ s ∈ ss, s.isTurn = true) ∧ b.settle.settled = true :=
  hb.settleIn b.work_le

end Turns

section Waiting

variable {b : StopBoard} {rs : Nat → List Nat} {gs : List Begun} {t n i : Nat} {g : Begun}

/-- Time passes to the next instant that somebody waits for, and everybody goes on. -/
theorem Holds.advance (hb : Holds b rs gs) (hset : b.settled = true) (hlt : b.now < t)
    (hdue : ∀ u ∈ b.dues, t ≤ u) : ∃ ss, Runs b ss (b.advance t) ∧
      (b.advance t).settled = true ∧ (b.advance t).now = t ∧
      ∀ i, b.outcome i = none → JustNow i (b.advance t) := by
  have hms : b.now + (t - b.now) = max t (b.now + 1) := by omega
  have hn := next?_pass (t - b.now) hset fun u hu => by
    have := hdue u hu
    omega
  rw [hms] at hn
  obtain ⟨ss, hr, hs, hset'⟩ := (hb.next hn).settle
  have hnow := now_of_turns hr hs
  refine ⟨_, .cons hn hr, hset', ?_, fun i ho => ?_⟩
  · simp only [StopBoard.advance, hnow]
    omega
  · refine JustNow.turns (fun t v h => ?_) hr hs
    change b.outcome i = some (t, v) at h
    rw [ho] at h
    cases h

/-- A sleep lasts to its end. -/
theorem Holds.passIn (hb : Holds b rs gs) (hset : b.settled = true) (hn : t ≤ b.now + n) :
    ∃ ss, Runs b ss (b.passIn t n) ∧ (b.passIn t n).settled = true ∧
      (b.passIn t n).now = max b.now t := by
  induction n generalizing b rs gs with
  | zero => exact ⟨[], .nil b, hset, (max_eq_left hn).symm⟩
  | succ n ih =>
    by_cases ht : t ≤ b.now
    · rw [StopBoard.passIn, if_pos ht, max_eq_left ht]
      exact ⟨[], .nil b, hset, rfl⟩
    rw [StopBoard.passIn, if_neg ht]
    obtain ⟨u, hu, hlt, hdue⟩ : ∃ u, min t ((b.dues.min?).getD t) = u ∧ b.now < u ∧
        ∀ d ∈ b.dues, u ≤ d := by
      rcases hmin : b.dues.min? with _ | m
      · rw [List.min?_eq_none_iff.1 hmin]
        exact ⟨t, by simp, by omega, by simp⟩
      · obtain ⟨hmem, hle⟩ := List.min?_eq_some_iff.1 hmin
        have := lt_of_settled hset hmem
        exact ⟨min t m, rfl, by omega, fun d hd => (min_le_right t m).trans (hle d hd)⟩
    have hut : u ≤ t := hu ▸ min_le_left ..
    rw [hu]
    obtain ⟨ss, hr, hset', hnow, -⟩ := hb.advance hset hlt hdue
    obtain ⟨ss', hr', hset'', hnow'⟩ := ih (hb.run hr) hset' (by omega)
    refine ⟨ss ++ ss', hr.append hr', hset'', ?_⟩
    omega

/-- A wait that cannot go on and has not ended sleeps. -/
theorem Holds.lapse_mem_dues (hb : Holds b rs gs) (hset : b.settled = true) (hg : gs[i]? = some g)
    (ho : b.outcome i = none) : g.lapse ∈ b.dues := by
  obtain ⟨w, hw⟩ := hb.wait_of_begun hg
  obtain ⟨q, hq⟩ := hb.signal_of_begun hg
  have hmem := List.mem_of_getElem? hw
  have hs := hb.sits i g w q hg hw hq
  have hstands := hs.stands
  simp only [settled, Bool.and_eq_true, List.all_eq_true] at hset
  obtain ⟨-, hbegun, hlooked⟩ := hs.quiet (hb.flagOf hq) (by simpa using hset.1 w hmem)
  simp only [outcome, hw, Option.bind_some] at ho
  refine List.mem_append_right _ (List.mem_filterMap.2 ⟨w, hmem, ?_⟩)
  rcases hp : w.phase with _ | _ | due | ⟨t, v⟩
  · exact absurd hp hbegun
  · exact absurd hp hlooked
  · simp only [hp] at hstands
    rw [StopWait.due?, hp, hstands.1]
  · simp [StopWait.outcome?, hp] at ho

/-- A wait ends, and time passes no further than to that instant. -/
theorem Holds.awaitIn (hb : Holds b rs gs) (hset : b.settled = true) (hg : gs[i]? = some g)
    (hn : g.lapse < b.now + n) (hj : JustNow i b) :
    ∃ ss v, Runs b ss (b.awaitIn i n) ∧ (b.awaitIn i n).settled = true ∧
      (b.awaitIn i n).outcome i = some ((b.awaitIn i n).now, v) := by
  have hended : ∀ o, b.outcome i = some o → ∃ v, b.outcome i = some (b.now, v) := by
    rintro ⟨t, v⟩ ho
    exact ⟨v, by rw [ho, hj t v ho]⟩
  induction n generalizing b rs gs with
  | zero =>
    rcases ho : b.outcome i with _ | o
    · have := lt_of_settled hset (hb.lapse_mem_dues hset hg ho)
      omega
    · obtain ⟨v, hv⟩ := hended o ho
      exact ⟨[], v, .nil b, hset, hv⟩
  | succ n ih =>
    rcases ho : b.outcome i with _ | o
    · have hmem := hb.lapse_mem_dues hset hg ho
      obtain ⟨m, hm⟩ : ∃ m, b.dues.min? = some m := by
        rcases hmin : b.dues.min? with _ | m
        · rw [List.min?_eq_none_iff.1 hmin] at hmem
          cases hmem
        · exact ⟨m, rfl⟩
      obtain ⟨hin, hle⟩ := List.min?_eq_some_iff.1 hm
      have hlt := lt_of_settled hset hin
      obtain ⟨ss, hr, hset', hnow, hjust⟩ := hb.advance hset hlt hle
      have hj' := hjust i ho
      have hi : i < gs.length := (List.getElem?_eq_some_iff.1 hg).1
      obtain ⟨ss', v, hr', hset'', hv⟩ := ih (hb.run hr) hset'
        (by rw [List.getElem?_append_left hi, hg]) (by have := hle _ hmem; omega) hj'
        fun o ho => ⟨o.2, by rw [ho, ← hj' o.1 o.2 ho]⟩
      simp only [StopBoard.awaitIn, ho, hm, Option.isSome_none, Bool.false_eq_true, if_false]
      exact ⟨ss ++ ss', v, hr.append hr', hset'', hv⟩
    · obtain ⟨v, hv⟩ := hended o ho
      simp only [StopBoard.awaitIn, ho, Option.isSome_some, if_true]
      exact ⟨[], v, .nil b, hset, ho ▸ hv⟩

end Waiting

section Acts

variable {b : StopBoard} {ss : List Step}

/-- A step is taken, and everybody goes on. -/
theorem Holds.take {b' : StopBoard} {rs : Nat → List Nat} {gs : List Begun} {s : Step}
    (hb : Holds b rs gs) (hn : b.next? s = some b') :
    ∃ ss, Runs b ss b'.settle ∧ b'.settle.settled = true := by
  obtain ⟨ss, hr, -, hset⟩ := (hb.next hn).settle
  exact ⟨s :: ss, .cons hn hr, hset⟩

theorem Holds.act_wait {rs : Nat → List Nat} {gs : List Begun} {h : Nat} (hb : Holds b rs gs)
    (hh : h < b.handles.length) (ms : Nat) : ∃ ss v, Runs b ss (b.act (.wait h ms)).2 ∧
      (b.act (.wait h ms)).2.settled = true ∧ (b.act (.wait h ms)).1 = .bool v ∧
      (b.act (.wait h ms)).2.outcome b.waits.length = some ((b.act (.wait h ms)).2.now, v) := by
  have hn : b.next? (.wait h ms) = some (b.wait h ms) := if_pos hh
  have hb' := hb.next hn
  obtain ⟨ss, hr, hs, hset⟩ := hb'.settle
  have hg : (gs ++ b.begins (.wait h ms))[b.waits.length]? = some ⟨h, b.now, ms, b.isRaised h⟩ := by
    rw [begins, ← hb.length, List.getElem?_concat_length]
  have hj : JustNow b.waits.length (b.wait h ms) := by
    intro t v ho
    simp [outcome, StopBoard.wait, StopWait.outcome?] at ho
  have hlapse :
      Begun.lapse ⟨h, b.now, ms, b.isRaised h⟩ < (b.wait h ms).settle.now + (ms + 1) := by
    rw [now_of_turns hr hs]
    have : wake b.now ms ≤ b.now + ms := Nat.add_le_add_left (min_le_left _ _) _
    simp only [Begun.lapse, StopBoard.wait]
    omega
  obtain ⟨ss', v, hr', hset', hv⟩ := (hb'.run hr).awaitIn hset
    (by rw [List.getElem?_append_left (List.getElem?_eq_some_iff.1 hg).1, hg]) hlapse
    (hj.turns hr hs)
  refine ⟨.wait h ms :: (ss ++ ss'), v, .cons hn (hr.append hr'), hset', ?_, hv⟩
  simp only [act, hv, Option.map_some, Option.getD_some]

/-- What an action leads to, some run leads to; nobody can go on there, a sleep has lasted as long
as it was to, and a wait is answered with what it was told when it ended, just now. -/
theorem runs_act (hr : Runs {} ss b) (hset : b.settled = true) (a : Action)
    (ha : ∀ h, a.handle? = some h → h < b.handles.length) :
    (∃ ss', Runs b ss' (b.act a).2) ∧ (b.act a).2.settled = true ∧
      (∀ ms, a = .sleep ms → (b.act a).2.now = wake b.now ms) ∧
      ∀ h ms, a = .wait h ms → ∃ v, (b.act a).1 = .bool v ∧
        (b.act a).2.outcome b.waits.length = some ((b.act a).2.now, v) := by
  have hb := Holds.of_run hr
  have hstep : ∀ (s : Step) (b' : StopBoard), b.next? s = some b' → (b.act a).2 = b'.settle →
      (∃ ss', Runs b ss' (b.act a).2) ∧ (b.act a).2.settled = true := by
    intro s b' hn hact
    obtain ⟨ss', hr', hset'⟩ := hb.take hn
    rw [hact]
    exact ⟨⟨ss', hr'⟩, hset'⟩
  cases a with
  | raise h =>
    obtain ⟨hrun, hset'⟩ := hstep (.raise h) _ (if_pos (ha h rfl)) rfl
    exact ⟨hrun, hset', by simp, by simp⟩
  | isRaised h => exact ⟨⟨[], .nil b⟩, hset, by simp, by simp⟩
  | wait h ms =>
    obtain ⟨ss', v, hr', hset', hreply, hv⟩ := hb.act_wait (ha h rfl) ms
    refine ⟨⟨ss', hr'⟩, hset', by simp, fun n m hnm => ?_⟩
    exact ⟨v, hreply, hv⟩
  | sleep ms =>
    have hle : b.now ≤ wake b.now ms := Nat.le_add_right ..
    obtain ⟨ss', hr', hset', hnow⟩ :=
      hb.passIn (t := wake b.now ms) (n := wake b.now ms - b.now) hset (by omega)
    refine ⟨⟨ss', hr'⟩, hset', fun n hn => ?_, by simp⟩
    obtain rfl := Action.sleep.inj hn
    exact hnow.trans (max_eq_right hle)
  | raiseAfter h ms =>
    obtain ⟨hrun, hset'⟩ := hstep (.raiseAfter h ms) _ (if_pos (ha h rfl)) rfl
    exact ⟨hrun, hset', by simp, by simp⟩
  | clone h =>
    obtain ⟨hrun, hset'⟩ := hstep (.clone h) _ (if_pos (ha h rfl)) rfl
    exact ⟨hrun, hset', by simp, by simp⟩
  | fresh =>
    obtain ⟨hrun, hset'⟩ := hstep .fresh _ rfl rfl
    exact ⟨hrun, hset', by simp, by simp⟩

end Acts

end SessionKeeper.StopBoard

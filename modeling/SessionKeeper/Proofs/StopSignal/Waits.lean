import SessionKeeper.StopSignal
import Mathlib

/-!
# No raise is missed

`raises` and `begun` read off the steps of a run when each signal is raised and how each wait is
begun. Raises may fall between any two turns of a wait. Asleep it has seen no raise, and if one has
come since, it can go on, so no time passes before it does (`Stands`). Every step keeps this
(`Holds.next`); so a wait that cannot go on has ended as the first raise of its signal and its
duration say, or sleeps with both to come (`Waited`). Turns come to an end, and then time can pass,
so nothing else keeps a wait (`waited_of_run`). No wait lasts longer than thirty years, and one of
no duration misses a raise that comes right after it (`waited_overlong`).
-/

namespace SessionKeeper.StopBoard

/-- A wait as it was begun. -/
structure Begun where
  handle : Nat
  since : Nat
  duration : Nat
  /-- Whether its signal was raised already. -/
  early : Bool

/-- The instant at which a wait is over if its signal is not raised. -/
def Begun.lapse (g : Begun) : Nat := wake g.since g.duration

/-- The handle by which a step raises a signal. -/
def raiser? (b : StopBoard) : Step → Option Nat
  | .raise h => some h
  | .fire i => b.timers[i]?.map (·.2)
  | .clone _ | .fresh | .wait _ _ | .raiseAfter _ _ | .resume _ | .pass _ => none

/-- The instant at which a step raises a signal, if it does. -/
def strikes (b : StopBoard) (q : Nat) (s : Step) : List Nat :=
  if (b.raiser? s).bind (b.handles[·]?) = some q then [b.now] else []

/-- The wait that a step begins, if it does. -/
def begins (b : StopBoard) : Step → List Begun
  | .wait h ms => [⟨h, b.now, ms, b.isRaised h⟩]
  | .raise _ | .clone _ | .fresh | .raiseAfter _ _ | .fire _ | .resume _ | .pass _ => []

/-- The instants at which a signal is raised in a run. -/
def raises (q : Nat) : StopBoard → List Step → List Nat
  | _, [] => []
  | b, s :: ss =>
    match b.next? s with
    | none => []
    | some b' => b.strikes q s ++ raises q b' ss

/-- The waits that are begun in a run, in order. -/
def begun : StopBoard → List Step → List Begun
  | _, [] => []
  | b, s :: ss =>
    match b.next? s with
    | none => []
    | some b' => b.begins s ++ begun b' ss

/-- A step that waits and timers take by themselves. -/
def Step.isTurn : Step → Bool
  | .fire _ | .resume _ => true
  | .raise _ | .clone _ | .fresh | .wait _ _ | .raiseAfter _ _ | .pass _ => false

/-- How a wait ends that was begun at `since` and is over at `lapse`, on a signal that was first
raised at an instant or not so far. If the raise comes at the instant at which the wait is over, it
depends on which of the two is first. -/
structure Waited (since lapse : Nat) (early : Bool) (raised : Option Nat) (now : Nat)
    (outcome : Option (Nat × Bool)) : Prop where
  before : ∀ r, raised = some r → r ≤ since → early = true ∨ since < lapse →
    outcome = some (since, true)
  meanwhile : ∀ r, raised = some r → since < r → r < lapse → outcome = some (r, true)
  tied : raised = some lapse → ∃ v, outcome = some (lapse, v)
  lapsed : (∀ r, raised = some r → lapse < r) → lapse ≤ now → outcome = some (lapse, false)
  pending : raised = none → now < lapse → outcome = none

/-- Handles stay on their signals; a clone is a handle on the same signal, and a fresh signal is not
raised and has a handle of its own. -/
structure Shares (b : StopBoard) (s : Step) (b' : StopBoard) : Prop where
  handles : ∀ h < b.handles.length, b'.handles[h]? = b.handles[h]?
  others : ∀ h n, s = .raise h → b.handles[n]? ≠ b.handles[h]? → b'.isRaised n = b.isRaised n
  cloned : ∀ h, s = .clone h → b'.handles[b.handles.length]? = b.handles[h]?
  opened : s = .fresh → b'.isRaised b.handles.length = false ∧
    ∀ h < b.handles.length, b'.handles[b.handles.length]? ≠ b.handles[h]?

/-- Where a wait is that has seen a number of raises, on a signal raised at some instants. -/
def Stands (g : Begun) (rs : List Nat) (now seen : Nat) : WaitPhase → Prop
  | .begun => g.since = now ∧ (g.early = true → rs ≠ [])
  | .looked => g.since = now ∧ g.early = false
  -- a raise that has come since it looked wakes it before time passes
  | .asleep due => due = g.lapse ∧ g.since ≤ now ∧ now ≤ due ∧ g.early = false ∧ seen = 0 ∧
    ∀ r, rs.head? = some r → r = now
  | .ended t true => ∃ r, rs.head? = some r ∧ t = max g.since r ∧ r ≤ g.lapse
  | .ended t false => t = g.lapse ∧ t ≤ now ∧ g.early = false ∧ ∀ r, rs.head? = some r → t ≤ r

structure Sits (g : Begun) (rs : List Nat) (now : Nat) (w : StopWait) : Prop where
  handle : w.handle = g.handle
  duration : w.duration = g.duration
  stands : Stands g rs now w.seen w.phase

section Waits

variable {g : Begun} {rs : List Nat} {now : Nat} {w : StopWait}

theorem Begun.since_le_lapse (g : Begun) : g.since ≤ g.lapse := Nat.le_add_right ..

/-- A raise leaves a wait where it is; if it sleeps, the raise is new to it. -/
theorem Sits.raise (hs : Sits g rs now w) : Sits g (rs ++ [now]) now w := by
  refine ⟨hs.handle, hs.duration, ?_⟩
  have hstands := hs.stands
  rcases hp : w.phase with _ | _ | due | ⟨t, _ | _⟩ <;> rw [hp] at hstands
  · exact ⟨hstands.1, fun _ => by simp⟩
  · exact hstands
  · obtain ⟨hd, hsince, hnow, he, hseen, hr⟩ := hstands
    refine ⟨hd, hsince, hnow, he, hseen, fun r h => ?_⟩
    rcases rs with _ | ⟨r', rs⟩
    · exact (Option.some.inj h).symm
    · exact hr r h
  · obtain ⟨ht, hnow, he, hr⟩ := hstands
    refine ⟨ht, hnow, he, fun r h => ?_⟩
    rcases rs with _ | ⟨r', rs⟩
    · obtain rfl := Option.some.inj h
      exact hnow
    · exact hr r h
  · obtain ⟨r, hr, ht⟩ := hstands
    exact ⟨r, by rw [List.head?_append, hr, Option.some_or], ht⟩

/-- What a wait that cannot go on comes to. -/
theorem Sits.waited (hs : Sits g rs now w)
    (hasleep : ∀ due, w.phase = .asleep due → rs = [] ∧ now < due)
    (hbegun : w.phase ≠ .begun) (hlooked : w.phase ≠ .looked) :
    Waited g.since g.lapse g.early rs.head? now w.outcome? := by
  have hstands := hs.stands
  have hle := g.since_le_lapse
  rcases hp : w.phase with _ | _ | due | ⟨t, _ | _⟩ <;> rw [hp] at hstands
  · exact absurd hp hbegun
  · exact absurd hp hlooked
  · obtain ⟨rfl, -⟩ := hstands
    obtain ⟨rfl, hlt⟩ := hasleep _ hp
    have ho : w.outcome? = none := by rw [StopWait.outcome?, hp]
    refine ⟨by simp, by simp, by simp, fun _ h => ?_, fun _ _ => ho⟩
    omega
  · obtain ⟨rfl, hnow, he, hr⟩ := hstands
    have ho : w.outcome? = some (g.lapse, false) := by rw [StopWait.outcome?, hp]
    refine ⟨fun r h hrs hlt => ?_, fun r h _ hlt => ?_, fun _ => ⟨false, ho⟩, fun _ _ => ho,
      fun _ h => ?_⟩
    · have := hr r h
      rw [he] at hlt
      simp only [Bool.false_eq_true, false_or] at hlt
      omega
    · have := hr r h
      omega
    · omega
  · obtain ⟨r, hr, rfl, hlr⟩ := hstands
    have ho : w.outcome? = some (max g.since r, true) := by rw [StopWait.outcome?, hp]
    rw [hr, ho]
    refine ⟨fun r' h hrs _ => ?_, fun r' h hlt _ => ?_, fun h => ?_, fun h _ => ?_, by simp⟩
    · obtain rfl := Option.some.inj h
      rw [max_eq_left hrs]
    · obtain rfl := Option.some.inj h
      rw [max_eq_right hlt.le]
    · obtain rfl := Option.some.inj h
      exact ⟨true, by rw [max_eq_right hle]⟩
    · have := h r rfl
      omega

end Waits

section Turns

variable {b : StopBoard} {g : Begun} {rs : List Nat} {w : StopWait} {due : Nat}

theorem isRaised_eq {h : Nat} (hf : b.flagOf h = ⟨rs.head?, rs.length⟩) :
    b.isRaised h = rs.head?.isSome := by
  rw [isRaised, hf]

/-- A wait looks at its signal and, if that is down, at the clock. -/
theorem sits_rest (hh : w.handle = g.handle) (hd : w.duration = g.duration)
    (hf : b.flagOf g.handle = ⟨rs.head?, rs.length⟩) (hpast : ∀ r ∈ rs, r ≤ b.now)
    (hsince : g.since ≤ b.now) (hnow : b.now ≤ g.lapse) (he : g.early = false)
    (hnew : ∀ r, rs.head? = some r → g.since = b.now ∨ r = b.now) :
    Sits g rs b.now (b.rest w g.lapse) := by
  have hraised := isRaised_eq hf
  simp only [rest, hh, hf, hraised]
  rcases hr : rs.head? with _ | r
  · have hnone : ∀ r, rs.head? ≠ some r := by simp [hr]
    obtain rfl := List.head?_eq_none_iff.1 hr
    simp only [Option.isSome_none, Bool.false_eq_true, if_false]
    split_ifs with hlapse
    · exact ⟨rfl, hd, by omega, Nat.le_refl _, he, fun r h => absurd h (hnone r)⟩
    · exact ⟨rfl, hd, rfl, hsince, hnow, he, rfl, fun r h => absurd h (hnone r)⟩
  · simp only [Option.isSome_some, if_true]
    have hle := hpast r (List.mem_of_head? hr)
    have hmax : b.now = max g.since r := by rcases hnew r hr with h | h <;> omega
    exact ⟨rfl, hd, r, hr, hmax, by omega⟩

theorem Sits.turn (hs : Sits g rs b.now w) (hf : b.flagOf g.handle = ⟨rs.head?, rs.length⟩)
    (hpast : ∀ r ∈ rs, r ≤ b.now) : Sits g rs b.now (b.turn w) := by
  have hstands := hs.stands
  have hle := g.since_le_lapse
  unfold StopBoard.turn
  rcases hp : w.phase with _ | _ | due | ⟨t, v⟩ <;> rw [hp] at hstands
  · obtain ⟨hsince, hearly⟩ := hstands
    simp only [hs.handle, hf, isRaised_eq hf]
    rcases hr : rs.head? with _ | r
    · obtain rfl := List.head?_eq_none_iff.1 hr
      have he : g.early = false := by
        by_contra he
        exact hearly (by simpa using he) rfl
      exact ⟨rfl, hs.duration, hsince, he⟩
    · have hrs := hpast r (List.mem_of_head? hr)
      have hmax : b.now = max g.since r := by omega
      exact ⟨rfl, hs.duration, r, hr, hmax, by omega⟩
  · obtain ⟨hsince, he⟩ := hstands
    have hdue : wake b.now w.duration = g.lapse := by rw [Begun.lapse, hsince, hs.duration]
    simp only [hdue]
    exact sits_rest hs.handle hs.duration hf hpast hsince.le (by omega) he fun _ _ => .inl hsince
  · obtain ⟨rfl, hsince, hnow, he, -, hr⟩ := hstands
    exact sits_rest hs.handle hs.duration hf hpast hsince hnow he fun r h => .inr (hr r h)
  · exact hs

/-- A wait that sleeps on and cannot go on has not been passed by any raise. -/
theorem Sits.quiet (hs : Sits g rs b.now w) (hf : b.flagOf g.handle = ⟨rs.head?, rs.length⟩)
    (hn : b.waitReady w = false) :
    (∀ due, w.phase = .asleep due → rs = [] ∧ b.now < due) ∧ w.phase ≠ .begun ∧
      w.phase ≠ .looked := by
  have hstands := hs.stands
  refine ⟨fun due hp => ?_, fun hp => by simp [waitReady, hp] at hn,
    fun hp => by simp [waitReady, hp] at hn⟩
  simp only [hp] at hstands
  obtain ⟨-, -, -, -, hseen, -⟩ := hstands
  simp only [waitReady, hp, hs.handle, hf, hseen, Bool.or_eq_false_iff, bne_eq_false_iff_eq,
    decide_eq_false_iff_not, Nat.not_le] at hn
  exact ⟨List.length_eq_zero_iff.1 hn.1.symm, hn.2⟩

/-- Time passes while a wait cannot go on, and not past the instant up to which it sleeps. -/
theorem Sits.pass {ms : Nat} (hs : Sits g rs b.now w)
    (hf : b.flagOf g.handle = ⟨rs.head?, rs.length⟩) (hn : b.waitReady w = false)
    (hdue : ∀ due, w.due? = some due → b.now + ms ≤ due) : Sits g rs (b.now + ms) w := by
  obtain ⟨hasleep, hbegun, hlooked⟩ := hs.quiet hf hn
  refine ⟨hs.handle, hs.duration, ?_⟩
  have hstands := hs.stands
  rcases hp : w.phase with _ | _ | due | ⟨t, _ | _⟩ <;> rw [hp] at hstands
  · exact absurd hp hbegun
  · exact absurd hp hlooked
  · obtain ⟨hd, hsince, -, he, hseen, -⟩ := hstands
    obtain ⟨rfl, -⟩ := hasleep due hp
    exact ⟨hd, by omega, hdue due (by rw [StopWait.due?, hp]), he, hseen, by simp⟩
  · obtain ⟨ht, hnow, he, hr⟩ := hstands
    exact ⟨ht, by omega, he, hr⟩
  · exact hstands

end Turns

/-- Signals were raised at some instants, and each wait that was begun stands as it should. -/
structure Holds (b : StopBoard) (rs : Nat → List Nat) (gs : List Begun) : Prop where
  bound : ∀ h q : Nat, b.handles[h]? = some q → q < b.signals.length
  flags : ∀ q, b.flag q = ⟨(rs q).head?, (rs q).length⟩
  past : ∀ q, ∀ r ∈ rs q, r ≤ b.now
  length : gs.length = b.waits.length
  known : ∀ g ∈ gs, g.handle < b.handles.length
  sits : ∀ (i : Nat) (g : Begun) (w : StopWait) (q : Nat), gs[i]? = some g → b.waits[i]? = some w →
    b.handles[g.handle]? = some q → Sits g (rs q) b.now w

section Raising

variable {b : StopBoard} {h q : Nat}

theorem flag_raise_of_ne (hq : b.handles[h]? ≠ some q) : (b.raise h).flag q = b.flag q := by
  unfold raise
  split
  · rename_i p hp
    have hpq : p ≠ q := fun heq => hq (by rw [hp, heq])
    simp [flag, hpq]
  · rfl

theorem flag_raise (hh : b.handles[h]? = some q) (hq : q < b.signals.length) :
    (b.raise h).flag q = (b.flag q).raise b.now := by
  simp [raise, flag, hh, hq]

@[simp]
theorem now_raise (b : StopBoard) (h : Nat) : (b.raise h).now = b.now := by
  unfold raise
  split <;> rfl

@[simp]
theorem handles_raise (b : StopBoard) (h : Nat) : (b.raise h).handles = b.handles := by
  unfold raise
  split <;> rfl

@[simp]
theorem timers_raise (b : StopBoard) (h : Nat) : (b.raise h).timers = b.timers := by
  unfold raise
  split <;> rfl

@[simp]
theorem waits_raise (b : StopBoard) (h : Nat) : (b.raise h).waits = b.waits := by
  unfold raise
  split <;> rfl

@[simp]
theorem length_signals_raise (b : StopBoard) (h : Nat) :
    (b.raise h).signals.length = b.signals.length := by
  unfold raise
  split <;> simp

theorem flagOf_eq (hh : b.handles[h]? = some q) : b.flagOf h = b.flag q := by rw [flagOf, hh]

end Raising

section Steps

variable {b b' : StopBoard} {i : Nat}

/-- A timer that is due is gone when it has raised its signal. -/
theorem next?_fire (hn : b.next? (.fire i) = some b') : ∃ t, b.timers[i]? = some t ∧
    t.1 ≤ b.now ∧ b' = { b with timers := b.timers.eraseIdx i }.raise t.2 := by
  rcases ht : b.timers[i]? with _ | t
  · simp [next?, ht] at hn
  · simp only [next?, ht, Option.ite_none_right_eq_some, Option.some.injEq] at hn
    obtain ⟨hdue, rfl⟩ := hn
    exact ⟨t, rfl, hdue, rfl⟩

/-- A wait that goes on could. -/
theorem next?_resume (hn : b.next? (.resume i) = some b') : ∃ w, b.waits[i]? = some w ∧
    b.waitReady w = true ∧ b' = { b with waits := b.waits.set i (b.turn w) } := by
  rcases hw : b.waits[i]? with _ | w
  · simp [next?, hw] at hn
  · simp only [next?, hw, Option.ite_none_right_eq_some, Option.some.injEq] at hn
    obtain ⟨hr, rfl⟩ := hn
    exact ⟨w, rfl, hr, rfl⟩

end Steps

namespace Holds

variable {b b' : StopBoard} {rs : Nat → List Nat} {gs : List Begun}

theorem empty : Holds {} (fun _ => []) [] :=
  ⟨by simp, fun _ => rfl, by simp, rfl, by simp, by simp⟩

theorem flagOf (hb : Holds b rs gs) {h q : Nat} (hh : b.handles[h]? = some q) :
    b.flagOf h = ⟨(rs q).head?, (rs q).length⟩ := (flagOf_eq hh).trans (hb.flags q)

/-- Every wait that was begun is there, on some signal. -/
theorem wait_of_begun (hb : Holds b rs gs) {i : Nat} {g : Begun} (hg : gs[i]? = some g) :
    ∃ w, b.waits[i]? = some w := by
  have hi : i < gs.length := (List.getElem?_eq_some_iff.1 hg).1
  exact ⟨_, List.getElem?_eq_getElem (hb.length ▸ hi)⟩

theorem signal_of_begun (hb : Holds b rs gs) {i : Nat} {g : Begun} (hg : gs[i]? = some g) :
    ∃ q, b.handles[g.handle]? = some q :=
  ⟨_, List.getElem?_eq_getElem (hb.known g (List.mem_of_getElem? hg))⟩

/-- The signal of a handle is raised, by a call or by a timer. -/
theorem raise (hb : Holds b rs gs) (ts : List (Nat × Nat)) (h : Nat) :
    Holds ({ b with timers := ts }.raise h)
      (fun q => rs q ++ if b.handles[h]? = some q then [b.now] else []) gs := by
  refine ⟨fun n q hn => ?_, fun q => ?_, fun q r hr => ?_, ?_, fun g hg => ?_,
    fun i g w q hg hw hq => ?_⟩
  · rw [handles_raise] at hn
    rw [length_signals_raise]
    exact hb.bound n q hn
  · by_cases hq : b.handles[h]? = some q
    · have hf : StopFlag.raise b.now (b.flag q)
          = ⟨(rs q ++ [b.now]).head?, (rs q ++ [b.now]).length⟩ := by
        rw [hb.flags q, List.head?_append, List.length_append]
        rfl
      rw [if_pos hq, ← hf]
      exact flag_raise (b := { b with timers := ts }) hq (hb.bound h q hq)
    · rw [if_neg hq, List.append_nil, ← hb.flags q]
      exact flag_raise_of_ne (b := { b with timers := ts }) hq
  · rw [now_raise]
    rcases List.mem_append.1 hr with hr | hr
    · exact hb.past q r hr
    · split_ifs at hr
      · exact (List.mem_singleton.1 hr).le
      · exact absurd hr List.not_mem_nil
  · rw [waits_raise]
    exact hb.length
  · rw [handles_raise]
    exact hb.known g hg
  · rw [handles_raise] at hq
    rw [waits_raise] at hw
    rw [now_raise]
    have hs := hb.sits i g w q hg hw hq
    split_ifs
    · exact hs.raise
    · rwa [List.append_nil]

/-- A handle more leaves all that was begun as it is. -/
theorem concat (hb : Holds b rs gs) {p : Nat} {fs : List StopFlag} (hp : p < fs.length)
    (hlen : b.signals.length ≤ fs.length)
    (hfs : ∀ q, (fs[q]?).getD {} = b.flag q) :
    Holds { b with signals := fs, handles := b.handles ++ [p] } rs gs := by
  refine ⟨fun h q hh => ?_, fun q => (hfs q).trans (hb.flags q), hb.past, hb.length,
    fun g hg => ?_, fun i g w q hg hw hq => ?_⟩
  · rcases List.mem_append.1 (List.mem_of_getElem? hh) with hm | hm
    · obtain ⟨n, hn⟩ := List.mem_iff_getElem?.1 hm
      exact (hb.bound n q hn).trans_le hlen
    · obtain rfl := List.mem_singleton.1 hm
      exact hp
  · have := hb.known g hg
    simp only [List.length_append, List.length_singleton]
    omega
  · have hg' := hb.known g (List.mem_of_getElem? hg)
    rw [List.getElem?_append_left hg'] at hq
    exact hb.sits i g w q hg hw hq

theorem clone (hb : Holds b rs gs) (h : Nat) : Holds (b.clone h) rs gs := by
  unfold StopBoard.clone
  split
  · rename_i p hp
    exact hb.concat (hb.bound h p hp) (Nat.le_refl _) fun _ => rfl
  · exact hb

theorem fresh (hb : Holds b rs gs) : Holds b.fresh rs gs := by
  refine hb.concat (by simp) (by simp) fun q => ?_
  rcases Nat.lt_trichotomy q b.signals.length with hq | hq | hq
  · simp [flag, List.getElem?_append_left hq]
  · simp [flag, hq]
  · rw [flag, List.getElem?_eq_none hq.le, List.getElem?_eq_none]
    simp only [List.length_append, List.length_singleton]
    omega

theorem wait (hb : Holds b rs gs) {h : Nat} (hh : h < b.handles.length) (ms : Nat) :
    Holds (b.wait h ms) rs (gs ++ b.begins (.wait h ms)) := by
  refine ⟨hb.bound, hb.flags, hb.past, by simp [StopBoard.wait, begins, hb.length], fun g hg => ?_,
    fun i g w q hg hw hq => ?_⟩
  · rcases List.mem_append.1 hg with hg | hg
    · exact hb.known g hg
    · obtain rfl := List.mem_singleton.1 hg
      exact hh
  · have hlen := hb.length
    rcases Nat.lt_or_ge i gs.length with hi | hi
    · rw [List.getElem?_append_left hi] at hg
      simp only [StopBoard.wait] at hw
      rw [List.getElem?_append_left (by omega)] at hw
      exact hb.sits i g w q hg hw hq
    · have hlt := (List.getElem?_eq_some_iff.1 hg).1
      simp only [begins, List.length_append, List.length_singleton] at hlt
      obtain rfl : i = gs.length := by omega
      rw [begins, List.getElem?_concat_length] at hg
      simp only [StopBoard.wait] at hw
      rw [hlen, List.getElem?_concat_length] at hw
      obtain rfl := Option.some.inj hg
      obtain rfl := Option.some.inj hw
      refine ⟨rfl, rfl, rfl, fun he => ?_⟩
      rw [isRaised_eq (hb.flagOf hq)] at he
      rintro h0
      rw [h0] at he
      cases he

theorem resume (hb : Holds b rs gs) {i : Nat} {w : StopWait} (hw : b.waits[i]? = some w) :
    Holds { b with waits := b.waits.set i (b.turn w) } rs gs := by
  refine ⟨hb.bound, hb.flags, hb.past, by simp [hb.length], hb.known, fun j g w' q hg hw' hq => ?_⟩
  rcases eq_or_ne i j with rfl | hij
  · have hi : i < b.waits.length := (List.getElem?_eq_some_iff.1 hw).1
    simp only [List.getElem?_set_self hi, Option.some.injEq] at hw'
    subst hw'
    exact (hb.sits i g w q hg hw hq).turn (hb.flagOf hq) (hb.past q)
  · simp only [List.getElem?_set_ne hij] at hw'
    exact hb.sits j g w' q hg hw' hq

theorem pass (hb : Holds b rs gs) {ms : Nat} (hset : b.settled = true)
    (hdue : b.dues.all (b.now + ms ≤ ·) = true) : Holds { b with now := b.now + ms } rs gs := by
  refine ⟨hb.bound, hb.flags, fun q r hr => ?_, hb.length, hb.known,
    fun i g w q hg hw hq => ?_⟩
  · have := hb.past q r hr
    exact Nat.le_add_right_of_le this
  · have hmem := List.mem_of_getElem? hw
    simp only [settled, Bool.and_eq_true, List.all_eq_true] at hset
    have hn : b.waitReady w = false := by simpa using hset.1 w hmem
    refine (hb.sits i g w q hg hw hq).pass (hb.flagOf hq) hn fun due hd => ?_
    have hin : due ∈ b.dues := List.mem_append_right _ (List.mem_filterMap.2 ⟨w, hmem, hd⟩)
    simpa using List.all_eq_true.1 hdue due hin

theorem next {s : Step} (hb : Holds b rs gs) (hn : b.next? s = some b') :
    Holds b' (fun q => rs q ++ b.strikes q s) (gs ++ b.begins s) := by
  have hsame : ∀ b' : StopBoard, b.raiser? s = none → b.begins s = [] → Holds b' rs gs →
      Holds b' (fun q => rs q ++ b.strikes q s) (gs ++ b.begins s) := by
    intro b' hr hg h
    simpa [strikes, hr, hg] using h
  cases s with
  | raise h =>
    simp only [next?, Option.ite_none_right_eq_some, Option.some.injEq] at hn
    obtain ⟨-, rfl⟩ := hn
    have hr : Holds (b.raise h) (fun q => rs q ++ b.strikes q (.raise h)) gs := hb.raise b.timers h
    rwa [begins, List.append_nil]
  | clone h =>
    simp only [next?, Option.ite_none_right_eq_some, Option.some.injEq] at hn
    obtain ⟨-, rfl⟩ := hn
    exact hsame _ rfl rfl (hb.clone h)
  | fresh =>
    obtain rfl := Option.some.inj hn
    exact hsame _ rfl rfl hb.fresh
  | wait h ms =>
    simp only [next?, Option.ite_none_right_eq_some, Option.some.injEq] at hn
    obtain ⟨hh, rfl⟩ := hn
    simpa [strikes, raiser?] using hb.wait hh ms
  | raiseAfter h ms =>
    simp only [next?, Option.ite_none_right_eq_some, Option.some.injEq] at hn
    obtain ⟨-, rfl⟩ := hn
    exact hsame _ rfl rfl ⟨hb.bound, hb.flags, hb.past, hb.length, hb.known, hb.sits⟩
  | fire i =>
    obtain ⟨t, ht, -, rfl⟩ := next?_fire hn
    simpa [strikes, raiser?, ht, begins] using hb.raise (b.timers.eraseIdx i) t.2
  | resume i =>
    obtain ⟨w, hw, -, rfl⟩ := next?_resume hn
    exact hsame _ rfl rfl (hb.resume hw)
  | pass ms =>
    simp only [next?, Option.ite_none_right_eq_some, Option.some.injEq, Bool.and_eq_true] at hn
    obtain ⟨⟨hset, hdue⟩, rfl⟩ := hn
    exact hsame _ rfl rfl (hb.pass hset hdue)

theorem run {ss : List Step} (hr : Runs b ss b') (hb : Holds b rs gs) :
    Holds b' (fun q => rs q ++ raises q b ss) (gs ++ begun b ss) := by
  induction hr generalizing rs gs with
  | nil b => simpa [raises, begun] using hb
  | cons hn _ ih => simpa [raises, begun, hn, List.append_assoc] using ih (hb.next hn)

end Holds

section Signals

variable {b b' : StopBoard} {rs : Nat → List Nat} {gs : List Begun}

theorem Holds.isRaised_iff (hb : Holds b rs gs) {h q : Nat} (hh : b.handles[h]? = some q) :
    b.isRaised h = true ↔ rs q ≠ [] := by
  rw [isRaised_eq (hb.flagOf hh)]
  cases rs q <;> simp

theorem shares_of_same {s : Step} (hh : b'.handles = b.handles) (hr : ∀ h, s ≠ .raise h)
    (hc : ∀ h, s ≠ .clone h) (hf : s ≠ .fresh) : Shares b s b' :=
  ⟨fun _ _ => by rw [hh], fun h _ hs => absurd hs (hr h), fun h hs => absurd hs (hc h),
    fun hs => absurd hs hf⟩

theorem isRaised_raise_of_ne {h n : Nat} (hne : b.handles[n]? ≠ b.handles[h]?) :
    (b.raise h).isRaised n = b.isRaised n := by
  unfold isRaised flagOf
  rw [handles_raise]
  rcases hn : b.handles[n]? with _ | q
  · rfl
  · dsimp only
    rw [flag_raise_of_ne fun heq => hne (hn.trans heq.symm)]

theorem Holds.shares_fresh (hb : Holds b rs gs) : Shares b .fresh b.fresh := by
  refine ⟨fun h hh => ?_, by simp, by simp, fun _ => ⟨?_, fun h hh heq => ?_⟩⟩
  · simp [StopBoard.fresh, List.getElem?_append_left hh]
  · simp [isRaised, StopBoard.flagOf, StopBoard.fresh, flag]
  · have hlt := hb.bound h b.signals.length (by rw [← heq]; simp [StopBoard.fresh])
    exact Nat.lt_irrefl _ hlt

theorem Holds.shares {s : Step} (hb : Holds b rs gs) (hn : b.next? s = some b') :
    Shares b s b' := by
  cases s with
  | raise h =>
    simp only [next?, Option.ite_none_right_eq_some, Option.some.injEq] at hn
    obtain ⟨-, rfl⟩ := hn
    refine ⟨fun _ _ => by rw [handles_raise], fun n m hs hne => ?_, by simp, by simp⟩
    obtain rfl := Step.raise.inj hs
    exact isRaised_raise_of_ne hne
  | clone h =>
    simp only [next?, Option.ite_none_right_eq_some, Option.some.injEq] at hn
    obtain ⟨hh, rfl⟩ := hn
    obtain ⟨p, hp⟩ : ∃ p, b.handles[h]? = some p := ⟨_, List.getElem?_eq_getElem hh⟩
    refine ⟨fun n hn => ?_, by simp, fun n hs => ?_, by simp⟩
    · simp [StopBoard.clone, hp, List.getElem?_append_left hn]
    · obtain rfl := Step.clone.inj hs
      simp [StopBoard.clone, hp]
  | fresh =>
    obtain rfl := Option.some.inj hn
    exact hb.shares_fresh
  | wait h ms =>
    simp only [next?, Option.ite_none_right_eq_some, Option.some.injEq] at hn
    obtain ⟨-, rfl⟩ := hn
    exact shares_of_same rfl (by simp) (by simp) (by simp)
  | raiseAfter h ms =>
    simp only [next?, Option.ite_none_right_eq_some, Option.some.injEq] at hn
    obtain ⟨-, rfl⟩ := hn
    exact shares_of_same rfl (by simp) (by simp) (by simp)
  | fire i =>
    obtain ⟨t, -, -, rfl⟩ := next?_fire hn
    exact shares_of_same (handles_raise _ t.2) (by simp) (by simp) (by simp)
  | resume i =>
    obtain ⟨w, -, -, rfl⟩ := next?_resume hn
    exact shares_of_same rfl (by simp) (by simp) (by simp)
  | pass ms =>
    simp only [next?, Option.ite_none_right_eq_some, Option.some.injEq] at hn
    obtain ⟨-, rfl⟩ := hn
    exact shares_of_same rfl (by simp) (by simp) (by simp)

end Signals

section Progress

variable {b b' : StopBoard} {rs : Nat → List Nat} {gs : List Begun}

/-- More turns than these a wait does not take at one instant. -/
def turnsLeft (w : StopWait) : Nat :=
  match w.phase with
  | .begun => 3
  | .looked => 2
  | .asleep _ => 1
  | .ended _ _ => 0

def work (b : StopBoard) : Nat := b.timers.length + (b.waits.map turnsLeft).sum

theorem work_le (b : StopBoard) : b.work ≤ b.timers.length + 3 * b.waits.length := by
  have hle : ∀ w, turnsLeft w ≤ 3 := by
    intro w
    unfold turnsLeft
    split <;> omega
  have hsum : (b.waits.map turnsLeft).sum ≤ b.waits.length * 3 := by
    have := List.sum_le_card_nsmul (b.waits.map turnsLeft) 3 (by simpa using fun w _ => hle w)
    simpa using this
  unfold work
  omega

/-- A sleeping wait that can go on ends. -/
theorem Sits.turnsLeft_lt {g : Begun} {rs : List Nat} {w : StopWait} (hs : Sits g rs b.now w)
    (hf : b.flagOf g.handle = ⟨rs.head?, rs.length⟩) (hr : b.waitReady w = true) :
    turnsLeft (b.turn w) < turnsLeft w := by
  have hstands := hs.stands
  have hraised := isRaised_eq hf
  have hrest : ∀ due, turnsLeft (b.rest w due) ≤ 1 := by
    intro due
    unfold rest turnsLeft
    dsimp only
    split_ifs <;> simp
  rcases hp : w.phase with _ | _ | due | ⟨t, v⟩ <;> rw [hp] at hstands <;>
    simp only [waitReady, hp] at hr <;> simp only [StopBoard.turn, hp, turnsLeft]
  · split_ifs <;> simp
  · exact Nat.lt_of_le_of_lt (hrest _) (by omega)
  · obtain ⟨-, -, -, -, hseen, -⟩ := hstands
    simp only [hs.handle, hf, hseen, Bool.or_eq_true, bne_iff_ne, decide_eq_true_eq] at hr
    simp only [rest, hs.handle, hraised]
    rcases rs with _ | ⟨r, rs⟩
    · have hlt : due ≤ b.now := hr.resolve_left (by simp)
      simp [hlt]
    · simp
  · cases hr

theorem Holds.work_lt {s : Step} (hb : Holds b rs gs) (hs : s.isTurn = true)
    (hn : b.next? s = some b') : b'.work < b.work := by
  cases s with
  | fire i =>
    obtain ⟨t, ht, -, rfl⟩ := next?_fire hn
    have hi : i < b.timers.length := (List.getElem?_eq_some_iff.1 ht).1
    simp only [work, timers_raise, waits_raise, List.length_eraseIdx_of_lt hi]
    omega
  | resume i =>
    obtain ⟨w, hw, hr, rfl⟩ := next?_resume hn
    have hi : i < b.waits.length := (List.getElem?_eq_some_iff.1 hw).1
    obtain ⟨g, hg⟩ : ∃ g, gs[i]? = some g := ⟨_, List.getElem?_eq_getElem (hb.length ▸ hi)⟩
    obtain ⟨q, hq⟩ := hb.signal_of_begun hg
    have hlt := (hb.sits i g w q hg hw hq).turnsLeft_lt (hb.flagOf hq) hr
    obtain ⟨ws, ws', hsplit, -, hset⟩ := @List.exists_of_set _ i (b.turn w) b.waits hi
    rw [(List.getElem?_eq_some_iff.1 hw).2] at hsplit
    simp only [work, hset]
    rw [hsplit]
    simp only [List.map_append, List.map_cons, List.sum_append, List.sum_cons]
    omega
  | _ => cases hs

/-- Turns by themselves come to an end. -/
theorem Holds.length_le {ss : List Step} (hr : Runs b ss b') (hb : Holds b rs gs)
    (hs : ∀ s ∈ ss, s.isTurn = true) : ss.length + b'.work ≤ b.work := by
  induction hr generalizing rs gs with
  | nil b => simp
  | cons hn _ ih =>
    have hlt := hb.work_lt (hs _ (by simp)) hn
    have := ih (hb.next hn) fun s h => hs s (by simp [h])
    simp only [List.length_cons]
    omega

theorem next?_nextTurn {s : Step} (h : b.nextTurn? = some s) :
    s.isTurn = true ∧ ∃ b', b.next? s = some b' := by
  unfold nextTurn? at h
  rcases ht : b.timers.findIdx? (fun t => t.1 ≤ b.now) with _ | i <;> rw [ht] at h
  · obtain ⟨i, hi, rfl⟩ := Option.map_eq_some_iff.1 h
    obtain ⟨hlt, hr, -⟩ := List.findIdx?_eq_some_iff_getElem.1 hi
    exact ⟨rfl, by simp [next?, hlt, hr]⟩
  · obtain rfl := Option.some.inj h
    obtain ⟨hlt, hr, -⟩ := List.findIdx?_eq_some_iff_getElem.1 ht
    have hdue : b.timers[i].1 ≤ b.now := by simpa using hr
    exact ⟨rfl, by simp [next?, hlt, hdue]⟩

theorem settled_of_nextTurn (h : b.nextTurn? = none) : b.settled = true := by
  unfold nextTurn? at h
  rcases ht : b.timers.findIdx? (fun t => t.1 ≤ b.now) with _ | i <;> rw [ht] at h
  · have htimers := List.findIdx?_eq_none_iff.1 ht
    have hwaits := List.findIdx?_eq_none_iff.1 (Option.map_eq_none_iff.1 h)
    simp only [settled, Bool.and_eq_true, List.all_eq_true]
    refine ⟨fun w hw => by simp [hwaits w hw], fun t hin => ?_⟩
    simpa using htimers t hin
  · cases h

theorem lt_of_settled (h : b.settled = true) {t : Nat} (ht : t ∈ b.dues) : b.now < t := by
  simp only [settled, Bool.and_eq_true, List.all_eq_true] at h
  rcases List.mem_append.1 ht with ht | ht
  · obtain ⟨u, hu, rfl⟩ := List.mem_map.1 ht
    simpa using h.2 u hu
  · obtain ⟨w, hw, hd⟩ := List.mem_filterMap.1 ht
    have hn : b.waitReady w = false := by simpa using h.1 w hw
    unfold StopWait.due? at hd
    split at hd
    · rename_i due hp
      obtain rfl := Option.some.inj hd
      simp only [waitReady, hp, Bool.or_eq_false_iff, decide_eq_false_iff_not] at hn
      omega
    · cases hd
    · cases hd
    · cases hd

/-- When nobody can go on, time can pass up to the next instant that somebody waits for. -/
theorem next?_pass (ms : Nat) (h : b.settled = true) (hdue : ∀ t ∈ b.dues, b.now + ms ≤ t) :
    b.next? (.pass ms) = some { b with now := b.now + ms } := by
  have hall : b.dues.all (b.now + ms ≤ ·) = true := by simpa using hdue
  simp [next?, h, hall]

end Progress

theorem Holds.of_run {ss : List Step} {b : StopBoard} (hr : Runs {} ss b) :
    Holds b (fun q => raises q {} ss) (begun {} ss) := by
  simpa using Holds.empty.run hr

/-- A wait that cannot go on has ended as the first raise of its signal and its duration say. -/
theorem Holds.waited {b : StopBoard} {rs : Nat → List Nat} {gs : List Begun} (hb : Holds b rs gs)
    {i q : Nat} {g : Begun} (hg : gs[i]? = some g) (hq : b.handles[g.handle]? = some q)
    (hn : b.ready i = false) :
    Waited g.since g.lapse g.early (rs q).head? b.now (b.outcome i) := by
  obtain ⟨w, hw⟩ := hb.wait_of_begun hg
  have hs := hb.sits i g w q hg hw hq
  have hn' : b.waitReady w = false := by simpa [ready, hw] using hn
  obtain ⟨hasleep, hbegun, hlooked⟩ := hs.quiet (hb.flagOf hq) hn'
  simpa [outcome, hw] using hs.waited hasleep hbegun hlooked

/-- Whatever is done in whatever order: a signal is raised through all its handles, for good, by a
raise through one of them and by nothing else; a wait that cannot go on has ended as the first raise
of its signal and its duration say; and nothing but time keeps a wait from going on. -/
theorem waited_of_run {ss : List Step} {b : StopBoard} (hr : Runs {} ss b) :
    (∀ s b', b.next? s = some b' → Shares b s b') ∧
      (∀ h q : Nat, b.handles[h]? = some q → (b.isRaised h = true ↔ raises q {} ss ≠ [])) ∧
      (∀ (ss' : List Step) (b' : StopBoard) (h n : Nat), Runs b ss' b' → h < b.handles.length →
        b'.handles[n]? = b.handles[h]? → b.isRaised h = true → b'.isRaised n = true) ∧
      (∀ (i q : Nat) (g : Begun), (begun {} ss)[i]? = some g → b.handles[g.handle]? = some q →
        b.ready i = false →
        Waited g.since g.lapse g.early (raises q {} ss).head? b.now (b.outcome i)) ∧
      (∀ (ss' : List Step) (b' : StopBoard), (∀ s ∈ ss', s.isTurn = true) → Runs b ss' b' →
        ss'.length ≤ b.timers.length + 3 * b.waits.length) ∧
      ((∃ s b', s.isTurn = true ∧ b.next? s = some b') ∨ ∃ b', b.next? (.pass 1) = some b') := by
  have hb := Holds.of_run hr
  refine ⟨fun s b' => hb.shares, fun h q => hb.isRaised_iff, fun ss' b' h n hr' hh hn hup => ?_,
    fun i q g => hb.waited, fun ss' b' hs hr' => ?_, ?_⟩
  · obtain ⟨q, hq⟩ : ∃ q, b.handles[h]? = some q := ⟨_, List.getElem?_eq_getElem hh⟩
    refine ((hb.run hr').isRaised_iff (hn.trans hq)).2 fun hnil => ?_
    exact (hb.isRaised_iff hq).1 hup (List.append_eq_nil_iff.1 hnil).1
  · have hle := hb.length_le hr' hs
    have hwork := b.work_le
    omega
  · rcases hturn : b.nextTurn? with _ | s
    · have hset := settled_of_nextTurn hturn
      exact .inr ⟨_, next?_pass 1 hset fun t => lt_of_settled hset⟩
    · obtain ⟨hs, b', hn⟩ := next?_nextTurn hturn
      exact .inl ⟨s, b', hs, hn⟩

/-- Of two waits on one signal the first is about to go to sleep, and the second sleeps, when the
signal is raised by a clone; a wait on another signal sleeps to its end. -/
def interleavedSteps : List Step :=
  [.fresh, .clone 0, .fresh, .wait 1 9, .resume 0, .resume 0, .wait 2 5, .resume 1, .resume 1,
    .pass 3, .wait 0 7, .resume 2, .raise 1, .resume 2, .resume 0, .pass 2, .resume 1]

theorem waited_of_run_interleaved : ∃ b, Runs {} interleavedSteps b ∧
    raises 0 {} interleavedSteps = [3] ∧ raises 1 {} interleavedSteps = [] ∧
    b.outcome 0 = some (3, true) ∧ b.outcome 1 = some (5, false) ∧
    b.outcome 2 = some (3, true) := by
  obtain ⟨b, hr, h0, h1, hh0, hh1, hh2, hn0, hn1, hn2, hnow⟩ : ∃ b, Runs {} interleavedSteps b ∧
      raises 0 {} interleavedSteps = [3] ∧ raises 1 {} interleavedSteps = [] ∧
      b.handles[1]? = some 0 ∧ b.handles[2]? = some 1 ∧ b.handles[0]? = some 0 ∧
      b.ready 0 = false ∧ b.ready 1 = false ∧ b.ready 2 = false ∧ b.now = 5 :=
    ⟨_, .cons rfl <| .cons rfl <| .cons rfl <| .cons rfl <| .cons rfl <| .cons rfl <| .cons rfl <|
      .cons rfl <| .cons rfl <| .cons rfl <| .cons rfl <| .cons rfl <| .cons rfl <| .cons rfl <|
      .cons rfl <| .cons rfl <| .cons rfl <| .nil _, rfl, rfl, rfl, rfl, rfl, rfl, rfl, rfl, rfl⟩
  obtain ⟨-, -, -, hwaited, -⟩ := waited_of_run hr
  have hw0 := hwaited 0 0 ⟨1, 0, 9, false⟩ rfl hh0 hn0
  have hw1 := hwaited 1 1 ⟨2, 0, 5, false⟩ rfl hh1 hn1
  have hw2 := hwaited 2 0 ⟨0, 3, 7, false⟩ rfl hh2 hn2
  rw [h0] at hw0 hw2
  rw [h1] at hw1
  refine ⟨b, hr, h0, h1, ?_, ?_, ?_⟩
  · exact hw0.meanwhile 3 rfl (by decide) (by decide)
  · exact hw1.lapsed (by simp) (by rw [hnow]; decide)
  · exact hw2.before 3 rfl (by decide) (.inr (by decide))

/-- A wait of more than thirty years, on a signal that is not raised. -/
def overlongSteps : List Step :=
  [.fresh, .wait 0 18446744073709551615, .resume 0, .resume 0, .pass longestWait, .resume 0]

/-- A wait of no duration, and after it a raise of its signal at the same instant. -/
def momentarySteps : List Step := [.fresh, .wait 0 0, .resume 0, .resume 0, .raise 0]

/-- A wait ends before its duration is over though its signal is not raised, and a wait of no
duration is told that its signal is not raised though it is at that instant. -/
theorem waited_overlong :
    (∃ b, Runs {} overlongSteps b ∧ raises 0 {} overlongSteps = [] ∧
      b.outcome 0 = some (946080000000, false) ∧
      ¬ Waited 0 (0 + 18446744073709551615) false none b.now (b.outcome 0)) ∧
    ∃ b, Runs {} momentarySteps b ∧ raises 0 {} momentarySteps = [0] ∧
      b.outcome 0 = some (0, false) := by
  constructor
  · obtain ⟨b, hr, hraises, hnow, ho⟩ : ∃ b, Runs {} overlongSteps b ∧
        raises 0 {} overlongSteps = [] ∧ b.now = 946080000000 ∧
        b.outcome 0 = some (946080000000, false) :=
      ⟨_, .cons rfl <| .cons rfl <| .cons rfl <| .cons rfl <| .cons rfl <| .cons rfl <| .nil _, rfl,
        rfl, rfl⟩
    refine ⟨b, hr, hraises, ho, fun hw => ?_⟩
    have hnone := hw.pending rfl (by rw [hnow]; decide)
    rw [ho] at hnone
    cases hnone
  · exact ⟨_, .cons rfl <| .cons rfl <| .cons rfl <| .cons rfl <| .cons rfl <| .nil _, rfl, rfl⟩

end SessionKeeper.StopBoard

import SessionKeeper.Proofs.Keeper.Timeline
import SessionKeeper.Rehearsal.Session

/-!
# Schedules are runs

A schedule lets actors go on, and lets time pass, in an order of its own; nothing comes from
outside. So what a schedule leads to some run leads to, and what is known of all runs is known of
it: while everybody goes on no time passes (`runs_settle`), a sleep lasts to its end
(`runs_passTo`), and a call that is performed is answered as some run answers it (`runs_perform`).
A rehearsal is a run from the keeper as it is made (`runs_play`).
-/

namespace SessionKeeper.Keeper

variable {State Op : Type} {T : Transport State Op} {k k' : Keeper State Op}
  {ss : List (Step State)}

/-- An actor goes on. -/
def AtOnce (_ : Keeper State Op) : Step State → Prop
  | .resume _ => True
  | _ => False

/-- An actor goes on, or time passes. -/
def Onward (_ : Keeper State Op) : Step State → Prop
  | .resume _ | .pass _ => True
  | _ => False

theorem AtOnce.onward {s : Step State} (h : k.AtOnce s) : k.Onward s := by
  cases s <;> first | exact h | exact h.elim

theorem now_of_atOnce (h : RunsUnder T AtOnce k ss k') : k'.now = k.now := by
  refine h.keeps (P := fun k' => k'.now = k.now) (fun {k₁ k₂ s} hs hn hk => ?_) rfl
  refine next?_keeps (fun hm hk => (now_of_move hm).trans hk) (fun k₃ hb => ?_) hn hk
  cases hb with
  | pass => exact hs.elim
  | _ => exact hk

/-- An actor goes on until it waits. -/
theorem runs_runActor (a : Actor) (n : Nat) (k : Keeper State Op) :
    ∃ ss, RunsUnder T AtOnce k ss (k.runActor T a n) := by
  induction n generalizing k with
  | zero => exact ⟨[], .nil k⟩
  | succ n ih =>
    unfold runActor
    split
    · rename_i hr
      obtain ⟨ss, h⟩ := ih (k.resume T a)
      exact ⟨_, .cons (s := .resume a) trivial (if_pos hr) h⟩
    · exact ⟨[], .nil k⟩

/-- Everybody goes on until all wait. -/
theorem runs_settleIn (n : Nat) (k : Keeper State Op) :
    ∃ ss, RunsUnder T AtOnce k ss (k.settleIn T n) := by
  induction n generalizing k with
  | zero => exact ⟨[], .nil k⟩
  | succ n ih =>
    unfold settleIn
    split
    · exact ⟨[], .nil k⟩
    · rename_i a _
      obtain ⟨ss, h⟩ := runs_runActor (T := T) a patience k
      obtain ⟨ss', h'⟩ := ih (k.runActor T a patience)
      exact ⟨_, h.append h'⟩

theorem runs_settle (k : Keeper State Op) :
    ∃ ss, RunsUnder T AtOnce k ss (k.settle T) ∧ (k.settle T).now = k.now := by
  obtain ⟨ss, h⟩ := runs_settleIn (T := T) patience k
  exact ⟨ss, h, now_of_atOnce h⟩

/-- Time passes to a later instant, at which everybody goes on. -/
theorem runs_advance {t : Nat} (ht : k.now ≤ t) : ∃ ss,
    RunsUnder T Onward k ss ({ k with now := t }.settle T) ∧
      ({ k with now := t }.settle T).now = t := by
  obtain ⟨ss, h, hnow⟩ := runs_settle (T := T) { k with now := t }
  have hpass : k.next? T (.pass (t - k.now)) = some { k with now := t } := by
    simp only [next?]
    rw [Nat.add_sub_cancel' ht]
  exact ⟨_, .cons (s := .pass _) trivial hpass (h.imp AtOnce.onward), hnow⟩

theorem runs_passIn {t n : Nat} (hn : t ≤ k.now + n) : ∃ ss,
    RunsUnder T Onward k ss (k.passIn T t n) ∧ (k.passIn T t n).now = max k.now t := by
  induction n generalizing k with
  | zero => exact ⟨[], .nil k, (max_eq_left hn).symm⟩
  | succ n ih =>
    unfold passIn
    split
    · exact ⟨[], .nil k, (max_eq_left ‹_›).symm⟩
    · rename_i hlt
      extract_lets next
      have hnext : next ≤ t := min_le_left _ _
      obtain ⟨ss, h, hnow⟩ := runs_advance (T := T) (k := k) (t := max next (k.now + 1)) (by omega)
      obtain ⟨ss', h', hnow'⟩ := ih (k := { k with now := max next (k.now + 1) }.settle T)
        (by omega)
      exact ⟨_, h.append h', by omega⟩

/-- Time passes until the given instant, unless it is past. -/
theorem runs_passTo (t : Nat) (k : Keeper State Op) : ∃ ss,
    RunsUnder T Onward k ss (k.passTo T t) ∧ (k.passTo T t).now = max k.now t :=
  runs_passIn (by omega)

theorem runs_awaitIn (c n : Nat) (k : Keeper State Op) :
    ∃ ss, RunsUnder T Onward k ss (k.awaitIn T c n) := by
  induction n generalizing k with
  | zero => exact ⟨[], .nil k⟩
  | succ n ih =>
    unfold awaitIn
    split
    · exact ⟨[], .nil k⟩
    · exact ⟨[], .nil k⟩
    · extract_lets k₁
      obtain ⟨ss, h⟩ := runs_runActor (T := T) (.call c) patience k
      obtain ⟨ss₁, h₁, -⟩ := runs_settle (T := T) (k.runActor T (.call c) patience)
      have hk₁ : RunsUnder T Onward k (ss ++ ss₁) k₁ := (h.append h₁).imp AtOnce.onward
      split
      · exact ⟨_, hk₁⟩
      · exact ⟨_, hk₁⟩
      · rename_i next _ _
        obtain ⟨ss₂, h₂, -⟩ := runs_advance (T := T) (k := k₁) (t := max next (k₁.now + 1))
          (by omega)
        obtain ⟨ss₃, h₃⟩ := ih ({ k₁ with now := max next (k₁.now + 1) }.settle T)
        exact ⟨_, hk₁.append (h₂.append h₃)⟩

/-- What a call is answered is what it has been answered where the wait for that ends. -/
theorem runs_await (c : Nat) (k : Keeper State Op) :
    ∃ ss, RunsUnder T Onward k ss (k.await T c).1 ∧
      (k.await T c).2 = (k.await T c).1.calls[c]?.bind CallPhase.answer? := by
  obtain ⟨ss, h⟩ := runs_awaitIn (T := T) c patience k
  exact ⟨ss, h, rfl⟩

/-- A call is made, and then nothing comes from outside until it has been answered. -/
theorem runs_perform (hk : k.held = true) (r : CallRequest) : ∃ ss,
    Runs T k (.call r :: ss) (k.perform T r).1 ∧
      RunsUnder T Onward (k.call r) ss (k.perform T r).1 ∧
      (k.perform T r).2 = (k.perform T r).1.calls[k.calls.length]?.bind CallPhase.answer? := by
  obtain ⟨ss, h, ha⟩ := runs_await (T := T) k.calls.length (k.call r)
  exact ⟨ss, .cons (if_pos hk) h.runs, h, ha⟩

section Rehearsals

open Rehearsal

variable {x : SessionStep}

theorem runs_step (s : Scene) (hi : x ≠ .install) (hd : x ≠ .drop) :
    ∃ ss, Runs stage s.player ss (s.step x).1.player := by
  cases x with
  | cue c => exact ⟨[.disturb _], .cons rfl (.nil _)⟩
  | sleep ms =>
    obtain ⟨ss, h, -⟩ := runs_passTo (T := stage) (wake s.player.now ms) s.player
    exact ⟨ss, h.runs⟩
  | join id =>
    simp only [Scene.step]
    split
    · exact ⟨[], .nil _⟩
    · obtain ⟨ss, h, -⟩ := runs_await (T := stage) _ s.player
      exact ⟨ss, h.runs⟩
  | call r =>
    cases hh : s.player.held <;> simp only [Scene.step, hh]
    · exact ⟨[], .nil _⟩
    · obtain ⟨ss, h, -⟩ := runs_perform (T := stage) hh r
      exact ⟨_, h⟩
  | start id r =>
    cases hh : s.player.held <;> simp only [Scene.step, hh]
    · exact ⟨[], .nil _⟩
    · exact ⟨[.call r], .cons (if_pos hh) (.nil _)⟩
  | install => exact absurd rfl hi
  | drop => exact absurd rfl hd

theorem runs_playFrom {steps : List SessionStep} (h : ∀ x ∈ steps, x ≠ .install ∧ x ≠ .drop)
    (reports : List StepReport) (s : Scene) :
    ∃ ss, Runs stage s.player ss (s.playFrom reports steps).1.player := by
  induction steps generalizing reports s with
  | nil => exact ⟨[], .nil _⟩
  | cons x steps ih =>
    obtain ⟨hi, hd⟩ := h x (by simp)
    obtain ⟨ss, hstep⟩ := runs_step s hi hd
    obtain ⟨ss₁, hset, -⟩ := runs_settle (T := stage) (s.step x).1.player
    obtain ⟨ss₂, hrest⟩ := ih (fun y hy => h y (by simp [hy])) _
      { (s.step x).1 with player := (s.step x).1.player.settle stage }
    exact ⟨_, (hstep.append hset.runs).append hrest⟩

/-- A rehearsal whose keeper has its transport from the beginning and is never let go. -/
theorem runs_play {steps : List SessionStep} (h : ∀ x ∈ steps, x ≠ .install ∧ x ≠ .drop)
    (config : LinkConfig) : ∃ ss, Runs stage (fresh config { hasSink := true } true) ss
      ((opening config true).play steps).1.player :=
  runs_playFrom h [] (opening config true)

end Rehearsals

end SessionKeeper.Keeper

import SessionKeeper.Proofs.Keeper.Resume

/-!
# Invariants of runs

`RunsUnder ok` are the runs whose every step is `ok` where it is taken: all runs, those in which
calls do not overlap (`InTurn`), those in which an episode is not late (`Punctual`). What a keeper
keeps in every move of an actor and in every step from outside it keeps in every run
(`RunsUnder.keeps`).
-/

namespace SessionKeeper.Keeper

open Relation (ReflTransGen)

variable {State Op : Type} {T : Transport State Op}

/-- A keeper as it is made. -/
def fresh (config : LinkConfig) (transport : State) (installed : Bool) : Keeper State Op :=
  { config, transport, installed }

/-- Steps that lead from one keeper to another, each `ok` where it is taken. -/
inductive RunsUnder (T : Transport State Op) (ok : Keeper State Op → Step State → Prop) :
    Keeper State Op → List (Step State) → Keeper State Op → Prop
  | nil (k) : RunsUnder T ok k [] k
  | cons {k k' k'' s ss} : ok k s → k.next? T s = some k' → RunsUnder T ok k' ss k'' →
      RunsUnder T ok k (s :: ss) k''

/-- The keeper is kept, and calls are made one after another. -/
def InTurn (k : Keeper State Op) : Step State → Prop
  | .call _ => k.idle = true
  | .drop => False
  | .resume _ | .pass _ | .disturb _ => True

/-- What befalls a keeper from outside. -/
inductive Befalls (k : Keeper State Op) : Step State → Keeper State Op → Prop
  | call (r) : Befalls k (.call r) (k.call r)
  | pass (ms) : Befalls k (.pass ms) { k with now := k.now + ms }
  | disturb (s) : Befalls k (.disturb s) { k with transport := s }
  | drop : Befalls k .drop { k with held := false }

theorem ready_of_resume {k k' : Keeper State Op} {a : Actor}
    (h : k.next? T (.resume a) = some k') : k.ready T a = true ∧ k' = k.resume T a := by
  simp only [next?, Option.ite_none_right_eq_some, Option.some.injEq] at h
  exact ⟨h.1, h.2.symm⟩

/-- A step is an actor going on, or comes from outside and may have the sessions stopped. -/
theorem next?_cases {k k' : Keeper State Op} {s : Step State} (h : k.next? T s = some k') :
    (∃ a, s = .resume a ∧ k.ready T a = true ∧ k' = k.resume T a) ∨
      ∃ k₁, Befalls k s k₁ ∧ (k' = k₁ ∨ k' = k₁.release T) := by
  cases s with
  | call r =>
    simp only [next?, Option.ite_none_right_eq_some, Option.some.injEq] at h
    exact .inr ⟨_, .call r, .inl h.2.symm⟩
  | resume a => exact .inl ⟨a, rfl, ready_of_resume h⟩
  | pass ms =>
    simp only [next?, Option.some.injEq] at h
    exact .inr ⟨_, .pass ms, .inl h.symm⟩
  | disturb s =>
    simp only [next?, Option.some.injEq] at h
    exact .inr ⟨_, .disturb s, .inl h.symm⟩
  | drop =>
    simp only [next?, Option.ite_none_right_eq_some, Option.some.injEq] at h
    exact .inr ⟨_, .drop, .inr h.2.symm⟩

theorem moves_keep {P : Keeper State Op → Prop} {a : Actor} {k k' : Keeper State Op}
    (hmove : ∀ {k k'}, Move T a k k' → P k → P k') (h : ReflTransGen (Move T a) k k')
    (hk : P k) : P k' := by
  induction h with
  | refl => exact hk
  | tail _ hm ih => exact hmove hm ih

theorem next?_keeps {P : Keeper State Op → Prop} {k k' : Keeper State Op} {s : Step State}
    (hmove : ∀ {a k k'}, Move T a k k' → P k → P k') (hout : ∀ k₁, Befalls k s k₁ → P k₁)
    (h : k.next? T s = some k') (hk : P k) : P k' := by
  rcases next?_cases h with ⟨a, -, hr, rfl⟩ | ⟨k₁, hb, rfl | rfl⟩
  · exact moves_keep hmove (resume_moves hr) hk
  · exact hout _ hb
  · exact moves_keep hmove (release_moves (.call 0) k₁) (hout _ hb)

theorem held_of_call {k k' : Keeper State Op} {r : CallRequest}
    (h : k.next? T (.call r) = some k') : k.held = true ∧ k' = k.call r := by
  simp only [next?, Option.ite_none_right_eq_some, Option.some.injEq] at h
  exact ⟨h.1, h.2.symm⟩

namespace RunsUnder

variable {ok : Keeper State Op → Step State → Prop} {k k' : Keeper State Op}
  {ss : List (Step State)}

/-- What every step keeps, every run keeps. -/
theorem keeps {P : Keeper State Op → Prop}
    (hstep : ∀ {k k' s}, ok k s → k.next? T s = some k' → P k → P k')
    (h : RunsUnder T ok k ss k') (hk : P k) : P k' := by
  induction h with
  | nil => exact hk
  | cons hs hn _ ih => exact ih (hstep hs hn hk)

theorem runs (h : RunsUnder T ok k ss k') : Runs T k ss k' := by
  induction h with
  | nil k => exact .nil k
  | cons _ hn _ ih => exact .cons hn ih

theorem imp {ok' : Keeper State Op → Step State → Prop} (h : RunsUnder T ok k ss k')
    (himp : ∀ {k s}, ok k s → ok' k s) : RunsUnder T ok' k ss k' := by
  induction h with
  | nil k => exact .nil k
  | cons hs hn _ ih => exact .cons (himp hs) hn ih

theorem append {k'' : Keeper State Op} {ss' : List (Step State)} (h : RunsUnder T ok k ss k')
    (h' : RunsUnder T ok k' ss' k'') : RunsUnder T ok k (ss ++ ss') k'' := by
  induction h with
  | nil k => exact h'
  | cons hs hn _ ih => exact .cons hs hn (ih h')

end RunsUnder

theorem Runs.under {k k' : Keeper State Op} {ss : List (Step State)} (h : Runs T k ss k') :
    RunsUnder T (fun _ _ => True) k ss k' := by
  induction h with
  | nil k => exact .nil k
  | cons hn _ ih => exact .cons trivial hn ih

theorem Runs.append {k k' k'' : Keeper State Op} {ss ss' : List (Step State)} (h : Runs T k ss k')
    (h' : Runs T k' ss' k'') : Runs T k (ss ++ ss') k'' :=
  (h.under.append h'.under).runs

/-- What every move keeps and everything from outside keeps, every run keeps. -/
theorem Runs.keeps {P : Keeper State Op → Prop} {k k' : Keeper State Op} {ss : List (Step State)}
    (hmove : ∀ {a k k'}, Move T a k k' → P k → P k')
    (hout : ∀ {s k k₁}, Befalls k s k₁ → P k → P k₁) (h : Runs T k ss k') (hk : P k) : P k' :=
  h.under.keeps (fun _ hn hp => next?_keeps hmove (fun _ hb => hout hb hp) hn hp) hk

end SessionKeeper.Keeper

import SessionKeeper.Launcher.Program
import SessionKeeper.Proofs.Keeper.Endings
import SessionKeeper.Proofs.Keeper.Schedules
import SessionKeeper.Proofs.Launcher.Runs
import SessionKeeper.Rehearsal.Launch

/-!
# Schedules of a launcher are runs

On time a run goes on, its keeper goes on, and time passes, in an order of their own; nothing comes
from outside. So what a schedule leads to is what some run leads to (`leads_finish`). The program is
a run from its beginning to where it is given up (`leads_run`), and so is a rehearsal
(`leads_launch`): what is known of runs is known of both.
-/

namespace SessionKeeper.Launcher

variable {State Op : Type} {T : Transport State Op} {r r' : Run State Op} {s : RunStep State}

/-- A run goes on, an actor of its keeper does, or time passes. -/
def RunStep.Onward : RunStep State → Prop
  | keeper (.resume _) | keeper (.pass _) | proceed | take _ => True
  | _ => False

/-- A step while nobody else sends anything, takes the messages or lets the keeper go. -/
def RunStep.Held (s : RunStep State) : Prop := s.Apart ∧ s ≠ .keeper .drop

theorem RunStep.Onward.apart (h : s.Onward) : s.Apart := by
  cases s with
  | keeper s => cases s <;> first | exact h.elim | trivial
  | _ => trivial

theorem RunStep.Onward.held (h : s.Onward) : s.Held := by
  refine ⟨h.apart, ?_⟩
  rintro rfl
  exact h

section Schedules

/-- The keeper of a run goes on, and the run waits. -/
theorem leads_of_keeper {k : Keeper State Op} {ss : List (Step State)}
    (h : Keeper.RunsUnder T Keeper.Onward r.keeper ss k) :
    Leads T RunStep.Onward r (ss.map .keeper) { r with keeper := k } := by
  generalize hk : r.keeper = k₀ at h
  induction h generalizing r with
  | nil => exact hk ▸ .nil r
  | @cons _ k₁ _ s _ hs hn _ ih =>
    have hnext : r.next? T (.keeper s) = some { r with keeper := k₁ } := by
      simp only [Run.next?, hk, hn, Option.map_some]
    exact .cons (by cases s <;> exact hs) hnext (ih (r := { r with keeper := k₁ }) rfl)

theorem leads_runActor (a : Actor) (n : Nat) (r : Run State Op) :
    ∃ ss, Leads T RunStep.Onward r ss { r with keeper := r.keeper.runActor T a n } := by
  obtain ⟨ss, h⟩ := Keeper.runs_runActor (T := T) a n r.keeper
  exact ⟨_, leads_of_keeper (h.imp Keeper.AtOnce.onward)⟩

theorem next?_of_step? (h : r.step? = some r') :
    ∃ s : RunStep State, s.Onward ∧ r.next? T s = some r' := by
  unfold Run.step? at h
  split at h
  · rename_i c hw
    refine ⟨.proceed, trivial, ?_⟩
    simp only [Run.next?, hw]
    exact h
  · split at h
    · rename_i hp
      obtain ⟨b, hb, rfl⟩ := Option.map_eq_some_iff.1 h
      refine ⟨.take b, trivial, ?_⟩
      simp only [Run.next?, hp, List.find?_some hb, if_true]
    · cases h

theorem leads_goOnIn (n : Nat) (r : Run State Op) :
    ∃ ss, Leads T RunStep.Onward r ss (r.goOnIn T n) := by
  induction n generalizing r with
  | zero => exact ⟨[], .nil r⟩
  | succ n ih =>
    unfold Run.goOnIn
    extract_lets keeper
    obtain ⟨ss, h⟩ : ∃ ss, Leads T RunStep.Onward r ss { r with keeper } := by
      rcases hw : r.awaited? with _ | c <;> simp only [keeper, hw]
      · exact ⟨[], .nil r⟩
      · exact leads_runActor _ _ r
    split
    · rename_i r' hs
      obtain ⟨s, hon, hn⟩ := next?_of_step? (T := T) hs
      obtain ⟨ss', h'⟩ := ih r'
      exact ⟨_, h.append (.cons hon hn h')⟩
    · exact ⟨ss, h⟩

theorem leads_giveTurn (a : Actor) (r : Run State Op) :
    ∃ ss, Leads T RunStep.Onward r ss (r.giveTurn T a) := by
  unfold Run.giveTurn
  extract_lets r₁
  obtain ⟨ss, h⟩ : ∃ ss, Leads T RunStep.Onward r ss r₁ := leads_runActor a Keeper.patience r
  split
  · split
    · obtain ⟨ss', h'⟩ := leads_goOnIn (T := T) Keeper.patience r₁
      exact ⟨_, h.append h'⟩
    · exact ⟨ss, h⟩
  · exact ⟨ss, h⟩

theorem leads_settleIn (n : Nat) (r : Run State Op) :
    ∃ ss, Leads T RunStep.Onward r ss (r.settleIn T n) := by
  induction n generalizing r with
  | zero => exact ⟨[], .nil r⟩
  | succ n ih =>
    unfold Run.settleIn
    split
    · rename_i a _
      obtain ⟨ss, h⟩ := leads_giveTurn (T := T) a r
      obtain ⟨ss', h'⟩ := ih (r.giveTurn T a)
      exact ⟨_, h.append h'⟩
    · split
      · rename_i r₁ hs
        obtain ⟨s, hon, hn⟩ := next?_of_step? (T := T) hs
        obtain ⟨ss, h⟩ := leads_goOnIn (T := T) Keeper.patience r₁
        obtain ⟨ss', h'⟩ := ih (r₁.goOnIn T Keeper.patience)
        exact ⟨_, .cons hon hn (h.append h')⟩
      · exact ⟨[], .nil r⟩

theorem leads_settle (r : Run State Op) : ∃ ss, Leads T RunStep.Onward r ss (r.settle T) :=
  leads_settleIn Keeper.patience r

/-- Time does not run backwards. -/
theorem now_le {ok : RunStep State → Prop} {ss : List (RunStep State)} (h : Leads T ok r ss r') :
    r.keeper.now ≤ r'.keeper.now := by
  refine h.keeps (P := fun k => r.keeper.now ≤ k.now)
    (fun hm hle => hle.trans (Keeper.now_of_move hm).ge) (fun hb hle => ?_) id le_rfl
  cases hb with
  | pass ms => exact Nat.le_add_right_of_le hle
  | _ => exact hle

theorem leads_passIn {t n : Nat} (hn : t ≤ r.keeper.now + n) : ∃ ss,
    Leads T RunStep.Onward r ss (r.passIn T t n) ∧
      (t ≤ (r.passIn T t n).keeper.now ∨ (r.passIn T t n).ending?.isSome = true) := by
  induction n generalizing r with
  | zero => exact ⟨[], .nil r, .inl hn⟩
  | succ n ih =>
    unfold Run.passIn
    split
    · rename_i hend
      exact ⟨[], .nil r, by simpa using hend⟩
    · extract_lets next now
      obtain ⟨ss, hset⟩ := leads_settle (T := T) { r with keeper := { r.keeper with now } }
      have hle := now_le hset
      have hpass : r.next? T (.keeper (.pass (now - r.keeper.now)))
          = some { r with keeper := { r.keeper with now } } := by
        simp only [Run.next?, Keeper.next?, Option.map_some]
        rw [Nat.add_sub_cancel' (by omega)]
      have hlater : now ≤ ({ r with keeper := { r.keeper with now } } : Run State Op).keeper.now :=
        le_rfl
      obtain ⟨ss', h', hend⟩ := ih (r := Run.settle T { r with keeper := { r.keeper with now } })
        (by omega)
      exact ⟨_, .cons (s := .keeper (.pass _)) trivial hpass (hset.append h'), hend⟩

/-- Time passes until the given instant, or until the run ends. -/
theorem leads_passTo (t : Nat) (r : Run State Op) : ∃ ss,
    Leads T RunStep.Onward r ss (r.passTo T t) ∧
      (t ≤ (r.passTo T t).keeper.now ∨ (r.passTo T t).ending?.isSome = true) :=
  leads_passIn (by omega)

theorem leads_finishIn (n : Nat) (r : Run State Op) :
    ∃ ss, Leads T RunStep.Onward r ss (r.finishIn T n) := by
  induction n generalizing r with
  | zero => exact ⟨[], .nil r⟩
  | succ n ih =>
    unfold Run.finishIn
    split
    · rename_i next _ _
      obtain ⟨ss, h, -⟩ := leads_passTo (T := T) (max next (r.keeper.now + 1)) r
      obtain ⟨ss', h'⟩ := ih (r.passTo T (max next (r.keeper.now + 1)))
      exact ⟨_, h.append h'⟩
    · exact ⟨[], .nil r⟩

theorem leads_finish (r : Run State Op) : ∃ ss, Leads T RunStep.Onward r ss (r.finish T) := by
  obtain ⟨ss, h⟩ := leads_settle (T := T) r
  obtain ⟨ss', h'⟩ := leads_finishIn (T := T) Keeper.patience (r.settle T)
  exact ⟨_, h.append h'⟩

end Schedules

/-- What the program ends with is what a run over its socket has come to, from the beginning and
with all of its input there. -/
theorem leads_run (network : Socket.Network) (input : Input) (s : Started) : ∃ ss r,
    Leads Socket.transport RunStep.Onward (.fresh s.settings.transport s.settings.connection
      { network, hasSink := true } true input {}) ss r ∧
    s.run network input = s.exit (r.ending?.getD (.ok ())) r.keeper.logged
      (Text.Utf8.decodeLossy r.console.written) := by
  obtain ⟨ss, h⟩ := leads_finish (T := Socket.transport) (.fresh s.settings.transport
    s.settings.connection { network, hasSink := true } true input {})
  exact ⟨ss, _, h, rfl⟩

section Rehearsals

open Rehearsal

theorem held_of_leads {ss : List (RunStep State)} (h : Leads T RunStep.Held r ss r')
    (hr : r.keeper.held = true) : r'.keeper.held = true := by
  refine h.invariant (P := fun r => r.keeper.held = true) (fun {r₁ r₂ s} hs ha hh => ?_) hr
  have hskim : ∀ {k : Keeper State Op}, r₁.keeper.Skims k → k.held = true := by
    intro k hk
    obtain ⟨queue, history, hf⟩ := hk.frame
    rw [hf]
    exact hh
  cases ha with
  | keeper hn =>
    refine Keeper.next?_keeps (P := fun k => k.held = true)
      (fun hm hh => (Keeper.Answers.move hm).held.trans hh) (fun k₁ hb => ?_) hn hh
    cases hb with
    | drop => exact absurd rfl hs.2
    | _ => exact hh
  | tends _ hk => exact hskim hk
  | leaves _ _ hk =>
    have hkept := hskim hk
    exact hkept
  | _ => exact hh

variable {r : Launch}

/-- Whatever happens in a rehearsal happens in one step, or changes nothing. -/
theorem leads_happen (hr : r.keeper.held = true) (x : Happening) :
    ∃ ss, Leads stage RunStep.Held r ss (happen r x) := by
  have hone : ∀ {r' : Launch} (s : RunStep Stage), s.Held → r.next? stage s = some r' →
      ∃ ss, Leads stage RunStep.Held r ss r' := fun s hs hn => ⟨[s], .cons hs hn (.nil _)⟩
  cases x with
  | cue c => exact hone (.keeper (.disturb _)) ⟨trivial, by simp⟩ rfl
  | input bytes =>
    simp only [happen]
    split
    · exact ⟨[], .nil r⟩
    · exact hone (.type bytes) ⟨trivial, by simp⟩ (if_neg ‹_›)
  | endOfInput => exact hone .closeInput ⟨trivial, by simp⟩ rfl
  | shutdown e =>
    simp only [happen]
    rcases hs : r.shutdown with _ | e'
    · refine hone (.shutDown e) ⟨trivial, by simp⟩ ?_
      simp only [Run.next?, hs]
      rfl
    · exact ⟨[], by rw [Option.some_or, ← hs]; exact .nil r⟩
  | disconnect =>
    refine hone (.keeper (.call .disconnect)) ⟨trivial, by simp⟩ ?_
    simp only [Run.next?, Keeper.next?, hr, if_true, Option.map_some, happen]

theorem leads_launchThrough (hr : r.keeper.held = true) (happenings : List (Nat × Happening)) :
    ∃ ss, Leads stage RunStep.Held r ss (launchThrough r happenings) := by
  induction happenings generalizing r with
  | nil =>
    obtain ⟨ss, h⟩ := leads_happen hr .endOfInput
    obtain ⟨ss', h'⟩ := leads_finish (T := stage) (happen r .endOfInput)
    exact ⟨_, h.append (h'.imp RunStep.Onward.held)⟩
  | cons x happenings ih =>
    obtain ⟨instant, x⟩ := x
    unfold launchThrough
    extract_lets r₁
    obtain ⟨ss, h, -⟩ := leads_passTo (T := stage) instant r
    have h₁ : Leads stage RunStep.Held r ss r₁ := h.imp RunStep.Onward.held
    split
    · exact ⟨ss, h₁⟩
    · obtain ⟨ss₁, hx⟩ := leads_happen (held_of_leads h₁ hr) x
      obtain ⟨ss₂, hset⟩ := leads_settle (T := stage) (happen r₁ x)
      have h₂ := (h₁.append hx).append (hset.imp RunStep.Onward.held)
      obtain ⟨ss₃, hrest⟩ := ih (held_of_leads h₂ hr)
      exact ⟨_, h₂.append hrest⟩

/-- A rehearsal is a run over the scripted transport from its beginning. -/
theorem leads_launch {config : LinkConfig} {setup : List Cue} {console : Console}
    {happenings : List (Nat × Happening)}
    (h : launch config setup console happenings = .ok r) : ∃ transport ss,
    Leads stage RunStep.Apart (.fresh .tcp config transport true {} console) ss r := by
  unfold launch at h
  rcases hk : Keeper.install stage
    ({ config, transport := setup.foldl Stage.cue {} } : Player) with f | k
  · simp [hk, bind, Except.bind] at h
  obtain ⟨transport, rfl⟩ : ∃ transport, k = Keeper.fresh config transport true := by
    simp only [Keeper.install, Bool.false_eq_true, if_false] at hk
    split at hk <;> cases hk
    exact ⟨_, rfl⟩
  simp only [hk, bind, Except.bind] at h
  obtain rfl : launchThrough (Run.settle stage (.fresh .tcp config transport true {} console))
      happenings = r := Except.ok.inj h
  obtain ⟨ss, hset⟩ := leads_settle (T := stage) (.fresh .tcp config transport true {} console)
  have hset' := hset.imp RunStep.Onward.held
  obtain ⟨ss', hrest⟩ := leads_launchThrough (held_of_leads hset' rfl) happenings
  exact ⟨transport, _, (hset'.append hrest).imp And.left⟩

end Rehearsals

end SessionKeeper.Launcher

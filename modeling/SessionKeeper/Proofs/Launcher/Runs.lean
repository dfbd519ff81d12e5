import SessionKeeper.Launcher.Run
import SessionKeeper.Proofs.Keeper.Deeds
import SessionKeeper.Proofs.Keeper.Runs

/-!
# What a run of the launcher does

A step of a run is a step of its keeper, or comes from outside, or is one of the few things that the
run itself does: `Advances` lists them. Whatever a run prints, its keeper has only had its queue
taken and lines put into its log (`Skims`). So a run keeps what its keeper keeps under the moves of
the actors, under what befalls it, and when its queue is taken (`Leads.keeps`).
-/

namespace SessionKeeper

variable {State Op : Type}

namespace Keeper

variable {k k' k'' : Keeper State Op}

theorem say_say (ls ls' : List LogRecord) : (k.say ls).say ls' = k.say (ls' ++ ls) := by
  simp [say]

/-- The queue of a keeper is taken and lines go into its log, any number of times. -/
inductive Skims (k : Keeper State Op) : Keeper State Op → Prop
  | refl : Skims k k
  | say {k' : Keeper State Op} (ls : List LogRecord) : Skims k k' → Skims k (k'.say ls)
  | take {k' : Keeper State Op} : Skims k k' → Skims k k'.takeQueue.2

namespace Skims

theorem trans (h : Skims k k') (h' : Skims k' k'') : Skims k k'' := by
  induction h' with
  | refl => exact h
  | say ls _ ih => exact ih.say ls
  | take _ ih => exact ih.take

/-- Nothing else changes. -/
theorem frame (h : Skims k k') : ∃ queue history, k' = { k with queue, history } := by
  induction h with
  | refl => exact ⟨_, _, rfl⟩
  | say ls _ ih =>
    obtain ⟨queue, history, rfl⟩ := ih
    exact ⟨_, _, rfl⟩
  | take _ ih =>
    obtain ⟨queue, history, rfl⟩ := ih
    exact ⟨_, _, rfl⟩

theorem deeds (h : Skims k k') (p : Event → Bool) : k'.deeds p = k.deeds p := by
  induction h with
  | refl => rfl
  | say ls _ ih => rw [deeds_say, ih]
  | take _ ih => rw [deeds_takeQueue, ih]

end Skims

end Keeper

namespace Launcher

variable {T : Transport State Op} {r r' : Run State Op} {s : RunStep State}

namespace Run

theorem announce_eq (m : String) (r : Run State Op) :
    ∃ ls, (r.announce m).1 = { r with keeper := r.keeper.say ls } := by
  unfold announce
  split
  · exact ⟨[], rfl⟩
  · exact ⟨[_], rfl⟩

theorem print_eq (gaveUp : Bool) (r : Run State Op) (ms : List String) :
    ∃ ls console, (r.print gaveUp ms).1 = { r with keeper := r.keeper.say ls, console } := by
  induction ms generalizing gaveUp r with
  | nil =>
    unfold print
    split <;> exact ⟨[], _, rfl⟩
  | cons m ms ih =>
    obtain ⟨ls, hr⟩ := announce_eq m r
    simp only [print, hr]
    split
    · rename_i console _
      obtain ⟨ls', console', hr'⟩ := ih (gaveUp || (r.announce m).2)
        { r with keeper := r.keeper.say ls, console }
      exact ⟨ls' ++ ls, console', by rw [hr', Keeper.say_say]⟩
    · exact ⟨ls, _, rfl⟩

theorem drain_says (r : Run State Op) : ∃ ls console,
    r.drain.1 = { r with keeper := r.keeper.takeQueue.2.say ls, console } :=
  print_eq false { r with keeper := r.keeper.takeQueue.2 } r.keeper.takeQueue.1

theorem drain_eq (r : Run State Op) :
    ∃ k console, r.keeper.Skims k ∧ r.drain.1 = { r with keeper := k, console } := by
  obtain ⟨ls, console, hr⟩ := drain_says r
  exact ⟨_, console, .say ls (.take .refl), hr⟩

theorem leave_says (r : Run State Op) : ∃ ls console ending,
    r.leave = clean ending { r with keeper := r.keeper.takeQueue.2.say ls, console } := by
  obtain ⟨ls, console, hr⟩ := drain_says r
  unfold leave
  split <;> rename_i h <;> rw [h] at hr <;> exact ⟨ls, console, _, congrArg _ hr⟩

/-- A run leaves its loop: the session is cleaned up. -/
theorem leave_eq (r : Run State Op) : ∃ k console ending, r.keeper.Skims k ∧
    r.leave = clean ending { r with keeper := k, console } := by
  obtain ⟨ls, console, ending, hr⟩ := leave_says r
  exact ⟨_, console, ending, .say ls (.take .refl), hr⟩

/-- A look at the queue goes on with the loop or leaves it. -/
theorem look_eq (r : Run State Op) : ∃ k console tick, r.keeper.Skims k ∧
    (r.look = { r with keeper := k, console, tick } ∨
      ∃ ending, r.look = clean ending { r with keeper := k, console, tick }) := by
  unfold look
  extract_lets now due
  obtain ⟨k, console, hk, hr⟩ := drain_eq { r with tick := due + drainInterval }
  split <;> rename_i h <;> rw [h] at hr <;> cases hr
  · exact ⟨k, console, _, hk, .inl rfl⟩
  · obtain ⟨k', console', ending, hk', hr'⟩ :=
      leave_eq { r with keeper := k, console, tick := due + drainInterval }
    exact ⟨k', console', _, hk.trans hk', .inr ⟨ending, hr'⟩⟩
  · exact ⟨k, console, _, hk, .inr ⟨_, rfl⟩⟩

theorem take_of_next {b : Branch} (h : r.next? T (.take b) = some r') :
    r.phase = .looping ∧ r.open? b = true ∧ r' = r.take b := by
  simp only [Run.next?] at h
  split at h
  · split at h <;> cases h
    exact ⟨‹_›, ‹_›, rfl⟩
  · cases h

theorem input_of_proceed (h : r.next? T .proceed = some r') : r'.input = r.input := by
  obtain rfl : r' = r.proceed := by
    simp only [Run.next?] at h
    split at h
    · cases h
    · split at h <;> cases h
      rfl
  unfold proceed
  cases r.phase <;> dsimp only
  case connecting => split <;> [rfl; split <;> rfl]
  case dismissing => split <;> rfl
  case forwarding => split <;> [rfl; split <;> rfl]
  case cleaning => split <;> rfl

end Run

/-- How the session of a run ends, once that is clear. -/
def Phase.verdict : Phase → Option Ending
  | cleaning _ e | finished e => some e
  | _ => none

/-- A run as it begins, over a keeper as it is made. -/
def Run.fresh (kind : TransportKind) (config : LinkConfig) (transport : State) (installed : Bool)
    (input : Input) (console : Console) : Run State Op :=
  { Run.start kind (Keeper.fresh config transport installed) with input, console }

/-- What a step makes of a run. -/
inductive Advances (T : Transport State Op) (r : Run State Op) :
    RunStep State → Run State Op → Prop
  | keeper {s k} (h : r.keeper.next? T s = some k) : Advances T r (.keeper s) { r with keeper := k }
  /-- Input arrives or ends, or the shutdown comes. -/
  | outside {s input shutdown} (hs : ∀ s', s ≠ .keeper s') :
      Advances T r s { r with input, shutdown }
  | connected {c a} (hp : r.phase = .connecting c) (ha : r.answer? c = some a)
      (ho : (Run.outcomeOf a).success = true) :
      Advances T r .proceed { r with phase := .looping, tick := r.keeper.now }
  | rejected {c a} (reason : String) (hp : r.phase = .connecting c) (ha : r.answer? c = some a)
      (ho : (Run.outcomeOf a).success = false) :
      Advances T r .proceed { r with
        keeper := r.keeper.call .cleanup
        phase := .dismissing r.keeper.calls.length reason }
  | dismissed {c a reason} (hp : r.phase = .dismissing c reason) (ha : r.answer? c = some a) :
      Advances T r .proceed { r with phase := .finished (.error reason) }
  | forwarded {c a} (ls : List LogRecord) (hp : r.phase = .forwarding c)
      (ha : r.answer? c = some a) :
      Advances T r .proceed { r with keeper := r.keeper.say ls, phase := .looping }
  | cleaned {c a ending} (ls : List LogRecord) (hp : r.phase = .cleaning c ending)
      (ha : r.answer? c = some a) :
      Advances T r .proceed { r with keeper := r.keeper.say ls, phase := .finished ending }
  /-- A run goes on with its loop. -/
  | tends {b k console input tick} (hp : r.phase = .looping) (hk : r.keeper.Skims k) :
      Advances T r (.take b) { r with keeper := k, console, input, tick }
  | sends {b input payload} (hp : r.phase = .looping) :
      Advances T r (.take b) { r with
        keeper := r.keeper.call (.send payload)
        phase := .forwarding r.keeper.calls.length
        input }
  | leaves {b k console input tick} (ending : Ending) (hp : r.phase = .looping)
      (hk : r.keeper.Skims k) :
      Advances T r (.take b) (Run.clean ending { r with keeper := k, console, input, tick })

namespace Advances

theorem look (hp : r.phase = .looping) (b : Branch) : Advances T r (.take b) r.look := by
  obtain ⟨k, console, tick, hk, hr | ⟨ending, hr⟩⟩ := Run.look_eq r <;> rw [hr]
  · exact .tends hp hk
  · exact .leaves ending hp hk

theorem takeLine (hp : r.phase = .looping) (b : Branch) : Advances T r (.take b) r.takeLine := by
  unfold Run.takeLine
  rcases r.input.next? with _ | ⟨line, input⟩
  · exact .tends hp .refl
  rcases line with line | reason | _
  · simp only [Run.forward]
    split
    · exact .tends hp .refl
    · exact .sends hp
  · exact .leaves _ hp .refl
  · obtain ⟨k, console, ending, hk, hr⟩ :=
      Run.leave_eq (({ r with input } : Run State Op).log .info "📭 Input closed")
    simp only [hr]
    exact .leaves ending hp ((Keeper.Skims.refl.say [_]).trans hk)

theorem take (hp : r.phase = .looping) (b : Branch) : Advances T r (.take b) (r.take b) := by
  cases b with
  | shutdown =>
    simp only [Run.take]
    rcases r.shutdown with _ | (e | _)
    · exact .tends hp .refl
    · exact .leaves _ hp .refl
    · obtain ⟨k, console, ending, hk, hr⟩ := Run.leave_eq r
      simp only [hr]
      exact .leaves ending hp hk
  | line => exact takeLine hp _
  | tick => exact look hp _

theorem proceed {c : Nat} (hw : r.awaited? = some c) (ha : (r.answer? c).isSome = true) :
    Advances T r .proceed r.proceed := by
  obtain ⟨a, ha⟩ := Option.isSome_iff_exists.1 ha
  unfold Run.awaited? at hw
  unfold Run.proceed
  cases hp : r.phase <;> simp only [hp, reduceCtorEq] at hw <;> cases hw <;>
    simp only [ha, Option.map_some, Option.isSome_some, if_true]
  · split
    · exact .connected hp ha ‹_›
    · exact .rejected _ hp ha (Bool.eq_false_iff.2 ‹_›)
  · exact .dismissed hp ha
  · split
    · exact .forwarded [] hp ha
    · exact .forwarded [_] hp ha
  · exact .cleaned [_] hp ha

theorem of_next (h : r.next? T s = some r') : Advances T r s r' := by
  cases s with
  | keeper s =>
    obtain ⟨k, hk, rfl⟩ := Option.map_eq_some_iff.1 h
    exact .keeper hk
  | proceed =>
    simp only [Run.next?] at h
    split at h
    · cases h
    · rename_i c hw
      split at h <;> cases h
      exact proceed hw ‹_›
  | take b =>
    obtain ⟨hp, -, rfl⟩ := Run.take_of_next h
    exact take hp b
  | type bytes =>
    simp only [Run.next?] at h
    split at h <;> cases h
    exact .outside (by simp)
  | closeInput =>
    cases h
    exact .outside (by simp)
  | shutDown e =>
    simp only [Run.next?] at h
    split at h <;> cases h
    exact .outside (by simp)

end Advances

/-- A step of a run while nobody else sends anything or takes the messages. -/
def RunStep.Apart : RunStep State → Prop
  | keeper (.call (.send _)) | keeper (.call .messages) => False
  | _ => True

/-- Steps that lead from one run to another, each `ok`. -/
inductive Leads (T : Transport State Op) (ok : RunStep State → Prop) :
    Run State Op → List (RunStep State) → Run State Op → Prop
  | nil (r : Run State Op) : Leads T ok r [] r
  | cons {r r' r'' : Run State Op} {s : RunStep State} {ss : List (RunStep State)} :
      ok s → r.next? T s = some r' → Leads T ok r' ss r'' → Leads T ok r (s :: ss) r''

theorem Leads.imp {ok ok' : RunStep State → Prop} {ss : List (RunStep State)}
    (h : Leads T ok r ss r') (himp : ∀ {s}, ok s → ok' s) : Leads T ok' r ss r' := by
  induction h with
  | nil r => exact .nil r
  | cons hs hn _ ih => exact .cons (himp hs) hn ih

theorem Leads.append {ok : RunStep State → Prop} {r'' : Run State Op}
    {ss ss' : List (RunStep State)} (h : Leads T ok r ss r') (h' : Leads T ok r' ss' r'') :
    Leads T ok r (ss ++ ss') r'' := by
  induction h with
  | nil => exact h'
  | cons hs hn _ ih => exact .cons hs hn (ih h')

/-- What every step keeps, every run keeps. -/
theorem Leads.invariant {ok : RunStep State → Prop} {ss : List (RunStep State)}
    {P : Run State Op → Prop} (hstep : ∀ {r r' s}, ok s → Advances T r s r' → P r → P r')
    (h : Leads T ok r ss r') (hr : P r) : P r' := by
  induction h with
  | nil => exact hr
  | cons hs hn _ ih => exact ih (hstep hs (.of_next hn) hr)

/-- A run comes to have a property at one of its steps. -/
theorem Leads.split_at {ok : RunStep State → Prop} {ss : List (RunStep State)}
    {P : Run State Op → Prop} (h : Leads T ok r ss r') (hr : ¬ P r) (hr' : P r') :
    ∃ before s after r₁ r₂, ss = before ++ s :: after ∧ Leads T ok r before r₁ ∧ ¬ P r₁ ∧
      r₁.next? T s = some r₂ ∧ P r₂ ∧ Leads T ok r₂ after r' := by
  induction h with
  | nil => exact absurd hr' hr
  | @cons r r₁ _ s ss hs hn h ih =>
    by_cases hr₁ : P r₁
    · exact ⟨[], s, ss, r, r₁, rfl, .nil r, hr, hn, hr₁, h⟩
    · obtain ⟨before, s', after, r₂, r₃, rfl, hb, h₂, hn', h₃, ha⟩ := ih hr₁ hr'
      exact ⟨s :: before, s', after, r₂, r₃, rfl, .cons hs hn hb, h₂, hn', h₃, ha⟩

/-- What a keeper keeps whatever happens to it, a run keeps. -/
theorem Leads.keeps {ok : RunStep State → Prop} {ss : List (RunStep State)}
    {P : Keeper State Op → Prop}
    (hmove : ∀ {a k k'}, Keeper.Move T a k k' → P k → P k')
    (hout : ∀ {s k k'}, Keeper.Befalls k s k' → P k → P k') (htake : ∀ {k}, P k → P k.takeQueue.2)
    (h : Leads T ok r ss r') (hr : P r.keeper) : P r'.keeper := by
  have hsay : ∀ {k : Keeper State Op} (ls : List LogRecord), P k → P (k.say ls) :=
    fun ls => hmove (.say (a := .call 0) ls)
  have hskim : ∀ {k k' : Keeper State Op}, k.Skims k' → P k → P k' := by
    intro k k' hk hp
    induction hk with
    | refl => exact hp
    | say ls _ ih => exact hsay ls ih
    | take _ ih => exact htake ih
  refine h.invariant (P := fun r => P r.keeper) (fun _ ha hp => ?_) hr
  cases ha with
  | keeper h => exact Keeper.next?_keeps hmove (fun _ hb => hout hb hp) h hp
  | rejected => exact hout (.call _) hp
  | forwarded ls => exact hsay ls hp
  | cleaned ls => exact hsay ls hp
  | tends _ hk => exact hskim hk hp
  | sends => exact hout (.call _) hp
  | leaves _ _ hk => exact hout (.call _) (hskim hk hp)
  | _ => exact hp

end Launcher

end SessionKeeper

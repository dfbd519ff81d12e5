import SessionKeeper.Proofs.Json.Notices
import SessionKeeper.Proofs.Keeper.Messages
import SessionKeeper.Proofs.Keeper.Stops
import SessionKeeper.Proofs.Launcher.Runs

/-!
# What makes a run give up

A look at the queue ends a run if the queue has a notice of failure in it, and it is the text alone
that tells a notice from a message of the server (`print_gaveUp`). A message in the queue comes out
of the sink or was put there as a notice (`Sourced`), and a notice of failure is put there with its
episode out of time. So a run that gives up has had an episode that ran out of time, or a message
handed over that reads as a notice of failure (`gaveUp_of_run`): a server that sends such a text
ends the session (`gaveUp_forged`).
-/

namespace SessionKeeper

variable {State Op : Type}

/-- A message that reads as a notice which ends the run. -/
def Launcher.ends (m : String) : Bool := (Notice.ofMessage? m).any isFinal

/-- A notice that ends the run. -/
def Event.fatal : Event → Bool
  | noticed _ n => Launcher.isFinal n
  | _ => false

theorem Launcher.ends_message (n : Notice) : ends n.message = isFinal n := by
  rw [ends, n.read_message]
  rfl

namespace Keeper

variable {T : Transport State Op} {k k' : Keeper State Op} {a : Actor}

/-- Some episode has run out of time. -/
def GaveUp (k : Keeper State Op) : Prop :=
  ∃ (j : Nat) (e : Episode Op), k.episodes[j]? = some e ∧ e.phase = .timedOut

theorem GaveUp.move (hm : Move T a k k') (h : k.GaveUp) : k'.GaveUp := by
  obtain ⟨j, e, he, hp⟩ := h
  exact ⟨j, e, getElem?_of_over hm he (by rw [hp]; rfl), hp⟩

/-- A notice of failure comes with an episode that runs out of time. -/
theorem fatal_of_move (hm : Move T a k k') :
    k'.deeds Event.fatal = k.deeds Event.fatal ∨ k'.GaveUp := by
  have hends : ∀ t : Turn State Op, (t.ends a).filter Event.fatal = [] := by
    intro t
    unfold Turn.ends
    split <;> simp [Event.fatal]
  have hinvoked : ∀ r, Event.fatal (.invoked a r) = false := fun _ => rfl
  have hstate : ∀ s, Event.fatal (.stateSet a s) = false := fun _ => rfl
  have hlost : ∀ s, Event.fatal (.noticed a (.lost s)) = false := fun _ => rfl
  have hattempt : ∀ n s, Event.fatal (.noticed a (.attempt n s)) = false := fun _ _ => rfl
  have hback : ∀ n, Event.fatal (.noticed a (.reconnected n)) = false := fun _ => rfl
  have hdown : { k with slot := none }.deeds Event.fatal = k.deeds Event.fatal := rfl
  cases hm with
  | timeOut he ht hst hl => exact .inr ⟨_, _, getElem?_set_self_of_eq_some he, rfl⟩
  | accept hc ht ho hs =>
    left
    rw [deeds_setCall, deeds_setState]
    exact (List.append_nil _).trans ((deeds_absorb Event.fatal k _ _).trans (by simp [hends]))
  | _ =>
    left
    simp [lose, announce, succeed, restEpisode, log_eq, deeds_stopEpisode, deeds_lower, hinvoked,
      hstate, hlost, hattempt, hback, hends, hdown]

/-- Where the messages of the sink and of the queue come from. -/
structure Sourced (k : Keeper State Op) : Prop where
  inbound : ∀ m ∈ k.inbound, m ∈ gather Event.handed k.history
  queue : ∀ m ∈ k.queue, m ∈ gather Event.handed k.history ∨
    ∃ who n, .noticed who n ∈ k.history ∧ n.message = m
  fatal : ∀ e ∈ k.deeds Event.fatal, k.GaveUp

namespace Sourced

theorem fresh {config : LinkConfig} {transport : State} {installed : Bool} :
    Sourced (Keeper.fresh config transport installed : Keeper State Op) := by
  constructor <;> simp [Keeper.fresh, deeds]

theorem pass {es : List Event} (h : Sourced k) (hp : Passes k k' es)
    (hf : ∀ e ∈ k'.deeds Event.fatal, k'.GaveUp) : Sourced k' := by
  have hhanded : ∀ m, m ∈ gather Event.handed k.history ∨ m ∈ gather Event.handed es →
      m ∈ gather Event.handed k'.history := by
    intro m hm
    rw [hp.history, gather_append, List.mem_append]
    exact hm
  have hsink : ∀ m ∈ k.inbound ++ gather Event.handed es, m ∈ gather Event.handed k'.history := by
    intro m hm
    exact hhanded m ((List.mem_append.1 hm).imp_left (h.inbound m))
  refine ⟨fun m hm => hsink m ?_, fun m hm => ?_, hf⟩
  · rw [hp.inbound]
    exact List.mem_append_right _ hm
  have hqueue : m ∈ k.queue ++ gather Event.pushed es := by
    rw [hp.queue]
    exact List.mem_append_right _ hm
  rcases List.mem_append.1 hqueue with hm | hm
  · refine (h.queue m hm).imp (fun h => hhanded m (.inl h)) ?_
    rintro ⟨who, n, hn, rfl⟩
    exact ⟨who, n, hp.history ▸ List.mem_append_right _ hn, rfl⟩
  rcases mem_gather_pushed hm with hm | ⟨who, n, hn, rfl⟩
  · -- what is moved into the queue was in the sink
    refine .inl (hsink m ?_)
    rw [hp.inbound]
    exact List.mem_append_left _ hm
  · exact .inr ⟨who, n, hp.history ▸ List.mem_append_left _ hn, rfl⟩

theorem move (hm : Move T a k k') (h : Sourced k) : Sourced k' := by
  obtain ⟨es, hp⟩ := Passes.move hm
  refine h.pass hp fun e he => ?_
  rcases fatal_of_move hm with hd | hg
  · exact (h.fatal e (hd ▸ he)).move hm
  · exact hg

theorem befall {s : Step State} (hb : Befalls k s k') (h : Sourced k) : Sourced k' := by
  have hd := deeds_of_befalls Event.fatal hb
  cases hb with
  | call r =>
    exact h.pass (.of_quiet [.called _ r] rfl rfl rfl (by simp)) fun e he => h.fatal e (hd ▸ he)
  | _ => exact h.pass (.of_quiet [] rfl rfl rfl (by simp)) h.fatal

theorem takeQueue (h : Sourced k) : Sourced k.takeQueue.2 := by
  refine ⟨fun m hm => ?_, by simp [Keeper.takeQueue, record], fun e he => ?_⟩
  · have hin := h.inbound m hm
    simpa [Keeper.takeQueue, record] using hin
  · rw [deeds_takeQueue] at he
    exact h.fatal e he

end Sourced

end Keeper

namespace Launcher

variable {T : Transport State Op} {r r' : Run State Op}

theorem Run.announce_ends (m : String) (r : Run State Op) : (r.announce m).2 = ends m := by
  unfold announce ends
  rcases Notice.ofMessage? m with _ | n <;> rfl

/-- What is printed tells whether the run gives up, if the output takes it. -/
theorem Run.print_gaveUp {ms : List String} {g b : Bool} (h : (r.print g ms).2 = .ok b) :
    b = (g || ms.any ends) := by
  induction ms generalizing g r with
  | nil =>
    unfold print at h
    split at h <;> cases h
    simp
  | cons m ms ih =>
    simp only [print] at h
    split at h
    · rw [ih h, announce_ends, List.any_cons, Bool.or_assoc]
    · cases h

theorem Run.drain_gaveUp {b : Bool} (h : r.drain.2 = .ok b) : b = r.keeper.queue.any ends :=
  (print_gaveUp h).trans (Bool.false_or _)

/-- A message that reads as a notice of failure ends the run at the next look, whoever sent it. -/
theorem Run.look_of_ends {m : String} (hm : m ∈ r.keeper.queue) (he : ends m = true) :
    ∃ c e, r.look.phase = .cleaning c e := by
  unfold look
  extract_lets now due
  split <;> rename_i h
  · have hnone := drain_gaveUp (congrArg Prod.snd h)
    have hany : r.keeper.queue.any ends = true := List.any_eq_true.2 ⟨m, hm, he⟩
    simp [hany] at hnone
  · obtain ⟨k, console, ending, -, hr⟩ := leave_eq ‹_›
    rw [hr]
    exact ⟨_, _, rfl⟩
  · exact ⟨_, _, rfl⟩

section Unrefused

theorem Console.write_unrefused {c : Console} (hw : ∀ w b, c.refusal w b = none)
    (bytes : List UInt8) : ∃ written, c.write bytes = ({ c with written }, none) := by
  unfold write
  split
  · exact ⟨c.written, rfl⟩
  · rw [hw]
    exact ⟨_, rfl⟩

theorem Console.print_unrefused {c : Console} (hw : ∀ w b, c.refusal w b = none) (m : String) :
    ∃ written, c.print m = ({ c with written }, none) := by
  obtain ⟨text, ht⟩ := write_unrefused hw (Text.Utf8.encode m)
  obtain ⟨line, hl⟩ := write_unrefused (c := { c with written := text }) hw (Text.Utf8.encode "\n")
  unfold print
  rw [ht]
  exact ⟨line, hl⟩

/-- An output that refuses nothing leaves it to the messages whether the run gives up. -/
theorem Run.print_unrefused (hw : ∀ w b, r.console.refusal w b = none)
    (hf : ∀ w, r.console.flushRefusal w = none) (g : Bool) (ms : List String) :
    (r.print g ms).2 = .ok (g || ms.any ends) := by
  induction ms generalizing g r with
  | nil => simp [print, Console.flush, hf]
  | cons m ms ih =>
    obtain ⟨ls, hk⟩ := announce_eq m r
    obtain ⟨written, hc⟩ := Console.print_unrefused hw m
    have hrest := ih (r := { r with
      keeper := r.keeper.say ls, console := { r.console with written } }) hw hf (g || ends m)
    simp only [print, hk, hc, announce_ends, List.any_cons]
    rw [hrest, Bool.or_assoc]

theorem Run.drain_unrefused (hw : ∀ w b, r.console.refusal w b = none)
    (hf : ∀ w, r.console.flushRefusal w = none) :
    r.drain.2 = .ok (r.keeper.queue.any ends) := by
  have h := print_unrefused (r := { r with keeper := r.keeper.takeQueue.2 }) hw hf false
    r.keeper.takeQueue.1
  rwa [Bool.false_or] at h

end Unrefused

/-- A run gives up only after an episode has run out of time, or the transport has handed over a
message that reads as a notice of that. -/
theorem gaveUp_of_run {ok : RunStep State → Prop} {kind : TransportKind} {config : LinkConfig}
    {transport : State} {installed : Bool} {input : Input} {console : Console}
    {ss : List (RunStep State)}
    (h : Leads T ok (.fresh kind config transport installed input console) ss r)
    {tick : Nat} (hd : { r with tick }.drain.2 = .ok true) :
    (∃ (j : Nat) (e : Episode Op), r.keeper.episodes[j]? = some e ∧ e.phase = .timedOut) ∨
      ∃ m ∈ gather Event.handed r.keeper.history, ∃ n, Notice.ofMessage? m = some n ∧
        isFinal n = true := by
  have hs : r.keeper.Sourced := by
    refine h.keeps (P := Keeper.Sourced) Keeper.Sourced.move Keeper.Sourced.befall
      Keeper.Sourced.takeQueue ?_
    exact (Keeper.Sourced.fresh.move (T := T) (.say (a := .call 0) [_])).befall (.call _)
  obtain ⟨m, hm, hends⟩ := List.any_eq_true.1 (Run.drain_gaveUp hd).symm
  rcases hs.queue m hm with hhanded | ⟨who, n, hn, rfl⟩
  · exact .inr ⟨m, hhanded, by simpa [ends, Option.any_eq_true] using hends⟩
  · rw [ends_message] at hends
    exact .inl (hs.fatal _ (Keeper.mem_deeds.2 ⟨hn, rfl, hends⟩))

/-- A run over the scripted transport, connected and in its loop. -/
def connectedSteps : List (RunStep Rehearsal.Stage) :=
  [.keeper (.resume (.call 0)), .keeper (.resume (.call 0)), .proceed]

/-- The session is lost for good. -/
def lostSteps : List (RunStep Rehearsal.Stage) :=
  connectedSteps ++ [.keeper (.resume (.watch 0)), .keeper (.disturb {}), .keeper (.pass 10),
    .keeper (.resume (.watch 0)), .keeper (.pass 300000), .keeper (.resume (.episode 0))]

theorem gaveUp_of_run_lost : ∃ r, Leads Rehearsal.stage (fun _ => True)
      (.fresh .tcp {} {} true {} {}) lostSteps r ∧ r.drain.2 = .ok true ∧
    ∃ (j : Nat) (e : Episode Rehearsal.Op), r.keeper.episodes[j]? = some e ∧
      e.phase = .timedOut := by
  obtain ⟨r, h, hq, hw, hf, hh⟩ : ∃ r : Run Rehearsal.Stage Rehearsal.Op,
      Leads Rehearsal.stage (fun _ => True) (.fresh .tcp {} {} true {} {}) lostSteps r ∧
      r.keeper.queue = [(Notice.lost 300).message, Notice.timedOut.message] ∧
      (∀ w b, r.console.refusal w b = none) ∧ (∀ w, r.console.flushRefusal w = none) ∧
      gather Event.handed r.keeper.history = [] :=
    ⟨_, .cons trivial rfl <| .cons trivial rfl <| .cons trivial rfl <| .cons trivial rfl <|
      .cons trivial rfl <| .cons trivial rfl <| .cons trivial rfl <| .cons trivial rfl <|
      .cons trivial rfl <| .nil _, rfl, fun _ _ => rfl, fun _ => rfl, rfl⟩
  have hd : r.drain.2 = .ok true := by
    rw [Run.drain_unrefused hw hf, hq]
    simp [ends_message, isFinal, Notice.timedOut]
  refine ⟨r, h, hd, (gaveUp_of_run h hd).resolve_right ?_⟩
  simp [hh]

/-- A text that any server can send. -/
def forged : String := (Notice.failed "bye").message

/-- The server sends the text of a notice, and no episode has ever begun. -/
theorem gaveUp_forged : ∃ ss r, Leads Rehearsal.stage (fun _ => True)
      (.fresh .tcp {} { hasSink := true } true {} {}) ss r ∧
    r.phase = .looping ∧ r.open? .tick = true ∧ r.drain.2 = .ok true ∧
    r.keeper.state = .connected ∧ r.keeper.episodes = [] ∧
    ∃ c e, (r.take .tick).phase = .cleaning c e := by
  obtain ⟨r, h, hp, ho, hq, hw, hf, hs, he⟩ : ∃ r : Run Rehearsal.Stage Rehearsal.Op,
      Leads Rehearsal.stage (fun _ => True) (.fresh .tcp {} { hasSink := true } true {} {})
        (connectedSteps ++ [.keeper (.disturb { up := true, hasSink := true, inbound := [forged] }),
          .keeper (.resume (.watch 0))]) r ∧
      r.phase = .looping ∧ r.open? .tick = true ∧ r.keeper.queue = [forged] ∧
      (∀ w b, r.console.refusal w b = none) ∧ (∀ w, r.console.flushRefusal w = none) ∧
      r.keeper.state = .connected ∧ r.keeper.episodes = [] :=
    ⟨_, .cons trivial rfl <| .cons trivial rfl <| .cons trivial rfl <| .cons trivial rfl <|
      .cons trivial rfl <| .nil _, rfl, rfl, rfl, fun _ _ => rfl, fun _ => rfl, rfl, rfl⟩
  have hends : ends forged = true := ends_message _
  refine ⟨_, r, h, hp, ho, ?_, hs, he, Run.look_of_ends (by rw [hq]; simp) hends⟩
  rw [Run.drain_unrefused hw hf, hq]
  simp [hends]

end Launcher

end SessionKeeper

import SessionKeeper.Proofs.Keeper.Moves

/-!
# Who did what

Some events are deeds of an actor: it puts a notice into the queue, sets the state, asks the
transport for something, or gets its result. `deeds p` are those that `p` picks, oldest first. A
move adds deeds of its own actor only (`deeds_of_move`).
-/

namespace SessionKeeper

variable {State Op : Type}

/-- The actor whose deed an event is. -/
@[simp]
def Event.who? : Event → Option Actor
  | noticed who _ => some who
  | invoked who _ => some who
  | returned who _ => some who
  | stateSet who _ => some who
  | _ => none

/-- The end of an operation. -/
def Turn.ends (who : Actor) (t : Turn State Op) : List Event :=
  match t.progress with
  | .pending _ => []
  | .done r => [.returned who r]

namespace Keeper

/-- The deeds that `p` picks, oldest first. -/
def deeds (p : Event → Bool) (k : Keeper State Op) : List Event :=
  (k.history.filter fun e => e.who?.isSome && p e).reverse

variable {T : Transport State Op} (p : Event → Bool) (k : Keeper State Op)

@[simp] theorem deeds_record (e : Event) :
    (k.record e).deeds p = k.deeds p ++ if e.who?.isSome && p e then [e] else [] := by
  unfold deeds record
  rw [List.filter_cons]
  split <;> simp

@[simp] theorem deeds_say (ls : List LogRecord) : (k.say ls).deeds p = k.deeds p := by
  simp [deeds, say, List.filter_map, Function.comp_def]

@[simp] theorem deeds_setWatch (i : Nat) (w : Watch Op) : (k.setWatch i w).deeds p = k.deeds p :=
  rfl

@[simp] theorem deeds_setEpisode (i : Nat) (e : Episode Op) :
    (k.setEpisode i e).deeds p = k.deeds p := rfl

@[simp] theorem deeds_setCall (c : Nat) (q : CallPhase Op) : (k.setCall c q).deeds p = k.deeds p :=
  rfl

@[simp] theorem deeds_absorb (who : Actor) (t : Turn State Op) :
    (k.absorb who t).deeds p = k.deeds p ++ (t.ends who).filter p := by
  unfold deeds absorb Turn.events Turn.ends
  rcases t.progress with _ | r <;> rcases t.delivered.isEmpty with _ | _ <;>
    simp [List.filter_map, Function.comp_def]
  all_goals rcases hp : p (.returned who r) with _ | _ <;> simp [hp]

@[simp] theorem deeds_setState (who : Actor) (s : LinkState) :
    (k.setState who s).deeds p =
      k.deeds p ++ if p (.stateSet who s) then [.stateSet who s] else [] :=
  deeds_record p { k with state := s } (.stateSet who s)

@[simp] theorem deeds_notify (who : Actor) (n : Notice) :
    (k.notify who n).deeds p = k.deeds p ++ if p (.noticed who n) then [.noticed who n] else [] :=
  deeds_record p { k with queue := k.queue ++ [n.message] } (.noticed who n)

@[simp] theorem deeds_conclude (c : Nat) (a : Answer) : (k.conclude c a).deeds p = k.deeds p := by
  simp [conclude]

@[simp] theorem deeds_takeQueue : k.takeQueue.2.deeds p = k.deeds p := by
  simp only [takeQueue, deeds_record]
  exact List.append_nil _

@[simp] theorem deeds_forward (i : Nat) : (k.forward i).deeds p = k.deeds p := by
  rw [forward_eq]
  split <;> simp [deeds]

@[simp] theorem deeds_rest (i : Nat) (w : Watch Op) : (k.rest i w).deeds p = k.deeds p := by
  rw [rest_eq]
  rfl

@[simp] theorem deeds_leave (i : Nat) (w : Watch Op) : (k.leave i w).deeds p = k.deeds p := rfl

@[simp] theorem deeds_beginEpisode (i : Nat) (w : Watch Op) (target : Endpoint) :
    (k.beginEpisode i w target).deeds p = k.deeds p := by
  simp only [beginEpisode, deeds_rest, deeds_record]
  exact List.append_nil _

@[simp] theorem deeds_ensureWatch : k.ensureWatch.deeds p = k.deeds p := by
  unfold ensureWatch
  split
  · rfl
  · simp only [deeds_record]
    exact List.append_nil _

@[simp] theorem deeds_raiseStop (i : Nat) : (k.raiseStop i).deeds p = k.deeds p := by
  rw [raiseStop_eq]
  split <;> simp [deeds]

@[simp] theorem deeds_abortWatch (i : Nat) : (k.abortWatch T i).deeds p = k.deeds p := by
  obtain ⟨s, hs⟩ := abortWatch_eq T i k
  rw [hs]
  rfl

@[simp] theorem deeds_abortLastEpisode (i : Nat) :
    (k.abortLastEpisode T i).deeds p = k.deeds p := by
  obtain ⟨s, hs⟩ := abortLastEpisode_eq T i k
  rw [hs]
  rfl

variable {p} {k}

theorem mem_deeds {e : Event} :
    e ∈ k.deeds p ↔ e ∈ k.history ∧ e.who?.isSome = true ∧ p e = true := by
  simp [deeds]

variable (k)

theorem deeds_lower {who : Actor} (hp : p (.stateSet who .disconnected) = false) :
    (k.lower who).deeds p = k.deeds p := by
  unfold lower
  split
  · rfl
  · simp [hp]

theorem deeds_stopEpisode {i : Nat} (e : Episode Op)
    (hp : p (.stateSet (.episode i) .disconnected) = false) :
    (k.stopEpisode i e).deeds p = k.deeds p := by
  simp only [stopEpisode]
  split <;> simp [hp]

variable {k}

theorem deeds_of_move {a : Actor} {k' : Keeper State Op} (hm : Move T a k k')
    (hp : ∀ e, e.who? = some a → p e = false) : k'.deeds p = k.deeds p := by
  have hends : ∀ t : Turn State Op, (t.ends a).filter p = [] := by
    intro t
    unfold Turn.ends
    split
    · rfl
    · rename_i r _
      simp [hp (.returned a r) rfl]
  have hinvoked := fun r => hp (.invoked a r) rfl
  have hnoticed := fun n => hp (.noticed a n) rfl
  have hstate := fun s => hp (.stateSet a s) rfl
  have hdown : ∀ k : Keeper State Op, { k with slot := none }.deeds p = k.deeds p := fun _ => rfl
  cases hm with
  | accept hc ht ho hs =>
    rw [deeds_setCall, deeds_setState, hstate]
    exact (List.append_nil _).trans ((deeds_absorb p k _ _).trans (by simp [hends]))
  | _ =>
    simp [lose, announce, timeOut, succeed, restEpisode, log_eq, deeds_stopEpisode, deeds_lower,
      hinvoked, hnoticed, hstate, hends, hdown]

end Keeper

end SessionKeeper

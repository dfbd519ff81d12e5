import SessionKeeper.Proofs.Keeper.Messages
import SessionKeeper.Proofs.Keeper.Stops

/-!
# Who takes the queue

No actor makes a call, and none but a call for the messages takes the queue (`outer_of_move`). So as
long as nobody calls for them the queue only grows, by what is pushed (`Fills.move`), and whatever
was pushed has been taken by the owner or waits in the queue (`Hoards`).
-/

namespace SessionKeeper

variable {State Op : Type}

namespace Event

/-- A call, or what comes of a call for the messages. -/
def outer : Event → Bool
  | called _ _ | drained _ | answered _ (.messages _) => true
  | _ => false

/-- What is taken out of the queue. -/
@[simp]
def drawn : Event → List String
  | drained l => l
  | _ => []

/-- The taking of the queue, empty or not. -/
@[simp]
def draws : Event → Bool
  | drained _ => true
  | _ => false

theorem of_inner {e : Event} (h : e.outer = false) :
    e.drawn = [] ∧ e.taken = [] ∧ e.draws = false := by
  unfold outer at h
  split at h <;> simp_all [drawn, taken, draws]

end Event

theorem Turn.outer_events (who : Actor) (t : Turn State Op) :
    (t.events who).filter Event.outer = [] := by
  simp only [List.filter_eq_nil_iff, events, List.mem_append, List.mem_reverse, List.mem_map]
  rintro e ((he | ⟨r, -, rfl⟩) | he)
  · split at he <;> simp_all [Event.outer]
  · simp [Event.outer]
  · split at he <;> simp_all [Event.outer]

namespace Keeper

variable {T : Transport State Op} {k k' : Keeper State Op} {a : Actor}

/-- No actor makes a call, or takes the queue unless it is a call for the messages. -/
theorem outer_of_move (hm : Move T a k k') :
    k'.history.filter Event.outer = k.history.filter Event.outer ∨
      ∃ c, k.calls[c]? = some (.opened .messages) ∧ k'.history.filter Event.outer =
        .answered c (.messages k.queue) :: .drained k.queue :: k.history.filter Event.outer := by
  have hlog : ∀ ls : List LogRecord, (ls.map Event.logged).filter Event.outer = [] := by
    simp [List.filter_eq_nil_iff, Event.outer]
  cases hm with
  | messages hc => exact .inr ⟨_, hc, rfl⟩
  | ensure ls =>
    left
    unfold ensureWatch
    split <;> simp [conclude, say, record, setCall, hlog, Event.outer]
  | @joined _ _ _ i =>
    obtain ⟨s, hk⟩ := abortLastEpisode_eq T i k
    left
    rw [hk]
  | @abort _ _ _ i =>
    obtain ⟨s, hk⟩ := abortWatch_eq T i k
    obtain ⟨s', hk'⟩ := abortLastEpisode_eq T i (k.abortWatch T i)
    left
    rw [hk', hk]
  | @release _ _ i =>
    obtain ⟨s, hk⟩ := abortLastEpisode_eq T i ({ k with slot := none }.raiseStop i)
    left
    rw [hk, raiseStop_eq]
    split <;> simp [Event.outer]
  | @closed c _ ending =>
    left
    have hlower : (if k.state = .disconnected then []
        else [Event.stateSet (.call c) .disconnected]).filter Event.outer = [] := by split <;> rfl
    rw [lower_eq]
    simp only [conclude, say, absorb, record, setCall, List.filter_append, hlog, List.nil_append,
      List.filter_cons, Turn.outer_events]
    cases ending <;> exact congrArg (· ++ k.history.filter Event.outer) hlower
  | _ =>
    left
    simp only [lose, announce, timeOut, succeed, restEpisode, log_eq, stopEpisode_eq, lower_eq,
      forward_eq, rest_eq, raiseStop_eq, conclude, say, absorb, record, setCall, setEpisode,
      setWatch, setState, notify, leave, beginEpisode, List.filter_append, hlog,
      Turn.outer_events, List.filter_cons, Event.outer, List.nil_append, if_false,
      Bool.false_eq_true]
    try (repeat' split) <;> simp [Event.outer]

/-- No actor makes a call. -/
theorem opened_of_move {c : Nat} {r : CallRequest} (hm : Move T a k k')
    (hc : k'.calls[c]? = some (.opened r)) : k.calls[c]? = some (.opened r) := by
  by_cases ha : a = .call c
  case neg => exact calls_of_others hm ha ▸ hc
  subst ha
  have hset : ∀ {cs : List (CallPhase Op)} {p : CallPhase Op},
      (cs.set c p)[c]? = some (.opened r) → p = .opened r := by
    intro cs p h
    rcases getElem?_set_eq_some h with ⟨-, hp⟩ | ⟨hne, -⟩
    · exact hp
    · exact absurd rfl hne
  cases hm with
  | say ls => exact hc
  | ensure ls =>
    cases hset hc
  | join hc' hs =>
    rw [raiseStop_eq] at hc
    cases hset hc
  | @joined _ _ _ i =>
    obtain ⟨s, hk⟩ := abortLastEpisode_eq T i k
    rwa [hk] at hc
  | @abort _ _ _ i =>
    obtain ⟨s, hk⟩ := abortWatch_eq T i k
    obtain ⟨s', hk'⟩ := abortLastEpisode_eq T i (k.abortWatch T i)
    rwa [hk', hk] at hc
  | skip hcl hu =>
    rw [lower_eq] at hc
    cases hset hc
  | @closed _ _ ending =>
    rw [lower_eq] at hc
    cases ending <;> cases hset hc
  | @release _ _ i =>
    obtain ⟨s, hk⟩ := abortLastEpisode_eq T i ({ k with slot := none }.raiseStop i)
    rwa [hk, raiseStop_eq] at hc
  | _ => cases hset hc

/-- Nobody has just called for the messages. -/
def Unasked (k : Keeper State Op) : Prop :=
  ∀ c : Nat, k.calls[c]? ≠ some (.opened .messages)

section Hoards

variable {k'' : Keeper State Op} {es es' : List Event}

/-- Events happen, newest first: the queue grows by what is pushed, and is not taken. -/
structure Fills (k k' : Keeper State Op) (es : List Event) : Prop where
  history : k'.history = es ++ k.history
  queue : k'.queue = k.queue ++ gather Event.pushed es
  undrawn : ∀ e ∈ es, e.draws = false

namespace Fills

theorem refl (k : Keeper State Op) : Fills k k [] := ⟨rfl, by simp, by simp⟩

theorem trans (h : Fills k k' es) (h' : Fills k' k'' es') : Fills k k'' (es' ++ es) := by
  refine ⟨by rw [h'.history, h.history, List.append_assoc], ?_, fun e he => ?_⟩
  · rw [h'.queue, h.queue, gather_append, List.append_assoc]
  · exact (List.mem_append.1 he).elim (h'.undrawn e) (h.undrawn e)

theorem drawn (h : Fills k k' es) :
    gather Event.drawn k'.history = gather Event.drawn k.history := by
  have hnone : gather Event.drawn es = [] := by
    refine gather_eq_nil fun e he => ?_
    have hdraws := h.undrawn e he
    cases e <;> first | rfl | cases hdraws
  rw [h.history, gather_append, hnone, List.append_nil]

theorem say (ls : List LogRecord) (k : Keeper State Op) :
    Fills k (k.say ls) (ls.map Event.logged) := by
  refine ⟨rfl, ?_, by simp⟩
  rw [gather_eq_nil (by simp), List.append_nil]
  rfl

theorem move (hm : Move T a k k') (hno : k.Unasked) :
    ∃ es, Fills k k' es := by
  obtain ⟨es, hp⟩ := Passes.move hm
  have hinner : ∀ e ∈ es, e.outer = false := by
    rcases outer_of_move hm with ho | ⟨c, hc, -⟩
    · rw [hp.history, List.filter_append] at ho
      have hnone := List.append_left_eq_self.1 ho
      simpa [List.filter_eq_nil_iff] using hnone
    · exact absurd hc (hno c)
  have htaken : gather Event.taken es = [] :=
    gather_eq_nil fun e he => (Event.of_inner (hinner e he)).2.1
  refine ⟨es, hp.history, ?_, fun e he => (Event.of_inner (hinner e he)).2.2⟩
  rw [hp.queue, htaken, List.nil_append]

theorem befall {s : Step State} (hb : Befalls k s k') : ∃ es, Fills k k' es := by
  cases hb with
  | call r => exact ⟨[.called _ r], rfl, by simp [call, record], by simp⟩
  | _ => exact ⟨[], rfl, by simp, by simp⟩

end Fills

/-- Nobody calls for the messages: whatever was pushed has been taken by the owner, or waits in the
queue. -/
structure Hoards (k : Keeper State Op) : Prop where
  unasked : k.Unasked
  queue : gather Event.pushed k.history = gather Event.drawn k.history ++ k.queue

namespace Hoards

theorem fresh {config : LinkConfig} {transport : State} {installed : Bool} :
    Hoards (Keeper.fresh config transport installed : Keeper State Op) :=
  ⟨by simp [Unasked, Keeper.fresh], rfl⟩

theorem fill (h : Hoards k) (hf : Fills k k' es)
    (hno : k'.Unasked) : Hoards k' := by
  refine ⟨hno, ?_⟩
  rw [hf.drawn, hf.queue, hf.history, gather_append, h.queue, List.append_assoc]

theorem say (ls : List LogRecord) (h : Hoards k) : Hoards (k.say ls) := h.fill (.say ls k) h.unasked

theorem takeQueue (h : Hoards k) : Hoards k.takeQueue.2 := by
  refine ⟨h.unasked, ?_⟩
  simpa [Keeper.takeQueue, record] using h.queue

theorem call {r : CallRequest} (h : Hoards k) (hr : r ≠ .messages) : Hoards (k.call r) := by
  have hb : Befalls k (.call r) (k.call r) := .call r
  obtain ⟨es, hf⟩ := Fills.befall hb
  refine h.fill hf fun c hc => ?_
  rcases getElem?_concat_eq_some.1 hc with hc | ⟨-, hc⟩
  · exact h.unasked c hc
  · exact hr (CallPhase.opened.inj hc)

/-- What happens to a keeper that nobody calls for the messages. -/
theorem next {s : Step State} (h : Hoards k) (hs : s ≠ .call .messages)
    (hn : k.next? T s = some k') : Hoards k' ∧ ∃ es, Fills k k' es := by
  refine next?_keeps (P := fun k' => Hoards k' ∧ ∃ es, Fills k k' es) ?_ (fun k₁ hb => ?_) hn
    ⟨h, [], .refl k⟩
  · rintro a k₁ k₂ hm ⟨h₁, es, hf⟩
    obtain ⟨es', hf'⟩ := Fills.move hm h₁.unasked
    exact ⟨h₁.fill hf' fun c hc => h₁.unasked c (opened_of_move hm hc), _, hf.trans hf'⟩
  · refine ⟨?_, Fills.befall hb⟩
    cases hb with
    | call r => exact h.call fun hr => hs (by rw [hr])
    | _ => exact ⟨h.unasked, h.queue⟩

end Hoards

end Hoards

end Keeper

end SessionKeeper

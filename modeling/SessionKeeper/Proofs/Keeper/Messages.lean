import SessionKeeper.Proofs.Keeper.Runs
import SessionKeeper.Rehearsal.Transport

/-!
# What passes through the queue

The transport hands messages to the sink, the watches move them into the queue, the workers push
notices there, and calls take everything out again. Each part of the way keeps all that it was given
in order: whatever was handed over is moved or waits in the sink, and whatever was pushed was taken
or waits in the queue (`messages_of_trades`). A pump that returns leaves nothing in the sink behind,
so its watch announces a loss only after what came before it.

Everything is read off the history by `gather`; a move changes the sink and the queue as it says in
the history (`Passes`), and that is all the invariant needs (`Delivers.pass`).
-/

namespace SessionKeeper

variable {State Op : Type}

/-- The messages that `f` finds in a history with the newest event first, oldest first. -/
def gather (f : Event → List String) (h : List Event) : List String := h.reverse.flatMap f

section Gather

variable {f : Event → List String}

@[simp] theorem gather_nil : gather f [] = [] := rfl

@[simp] theorem gather_cons (e : Event) (h : List Event) :
    gather f (e :: h) = gather f h ++ f e := by
  simp [gather]

@[simp] theorem gather_append (h' h : List Event) :
    gather f (h' ++ h) = gather f h ++ gather f h' := by
  simp [gather]

theorem mem_gather {h : List Event} {m : String} : m ∈ gather f h ↔ ∃ e ∈ h, m ∈ f e := by
  simp [gather]

theorem gather_eq_nil {h : List Event} (hf : ∀ e ∈ h, f e = []) : gather f h = [] := by
  unfold gather
  rw [List.flatMap_eq_nil_iff]
  exact fun e he => hf e (List.mem_reverse.1 he)

theorem gather_prefix_append (h' h : List Event) : gather f h <+: gather f (h' ++ h) := by
  rw [gather_append]
  exact List.prefix_append _ _

end Gather

namespace Event

/-- What is handed to the sink. -/
@[simp]
def handed : Event → List String
  | delivered l => l
  | _ => []

/-- What is moved from the sink into the queue. -/
@[simp]
def moved : Event → List String
  | forwarded _ l => l
  | _ => []

/-- What is put into the queue, by whomever. -/
@[simp]
def pushed : Event → List String
  | forwarded _ l => l
  | noticed _ n => [n.message]
  | _ => []

/-- What a call that takes the messages is answered. -/
@[simp]
def taken : Event → List String
  | answered _ (.messages l) => l
  | _ => []

/-- The watch that goes on with an event. -/
@[simp]
def watch? : Event → Option Nat
  | noticed (.watch i) _ | invoked (.watch i) _ | returned (.watch i) _ | stateSet (.watch i) _
  | looked i _ => some i
  | _ => none

/-- The end of a pump. -/
@[simp]
def pumps : Event → Bool
  | returned (.watch _) _ => true
  | _ => false

/-- An event that puts a notice into the queue at most. -/
@[simp]
def plain : Event → Bool
  | delivered _ | forwarded _ _ | returned (.watch _) _ | answered _ (.messages _) => false
  | _ => true

@[simp]
def quiet : Event → Bool
  | noticed _ _ => false
  | e => e.plain

theorem moved_sublist_pushed (e : Event) : e.moved.Sublist e.pushed := by
  cases e <;> simp

theorem of_plain {e : Event} (h : e.plain = true) :
    e.handed = [] ∧ e.moved = [] ∧ e.taken = [] ∧ e.pumps = false := by
  unfold plain at h
  split at h <;> simp_all [handed, moved, taken, pumps]

theorem of_quiet {e : Event} (h : e.quiet = true) : e.plain = true ∧ e.pushed = [] := by
  unfold quiet at h
  split at h
  · cases h
  · refine ⟨h, ?_⟩
    unfold plain at h
    split at h <;> simp_all [pushed]

end Event

theorem gather_moved_sublist (h : List Event) :
    (gather Event.moved h).Sublist (gather Event.pushed h) := by
  induction h with
  | nil => simp
  | cons e h ih =>
    rw [gather_cons, gather_cons]
    exact ih.append e.moved_sublist_pushed

/-- What is put into the queue was moved there, or is a notice. -/
theorem mem_gather_pushed {h : List Event} {m : String} (hm : m ∈ gather Event.pushed h) :
    m ∈ gather Event.moved h ∨ ∃ who n, .noticed who n ∈ h ∧ n.message = m := by
  obtain ⟨e, he, hm⟩ := mem_gather.1 hm
  cases e <;> simp only [Event.pushed, List.not_mem_nil, List.mem_singleton] at hm
  · exact .inr ⟨_, _, he, hm.symm⟩
  · exact .inl (mem_gather.2 ⟨_, he, hm⟩)

section Plain

variable {es : List Event} (h : ∀ e ∈ es, e.plain = true)

include h

theorem gather_handed_plain : gather Event.handed es = [] :=
  gather_eq_nil fun e he => (Event.of_plain (h e he)).1

theorem gather_moved_plain : gather Event.moved es = [] :=
  gather_eq_nil fun e he => (Event.of_plain (h e he)).2.1

theorem gather_taken_plain : gather Event.taken es = [] :=
  gather_eq_nil fun e he => (Event.of_plain (h e he)).2.2.1

end Plain

namespace Turn

variable (who : Actor) (t : Turn State Op)

theorem gather_events (f : Event → List String) (hl : ∀ r, f (.logged r) = [])
    (hr : ∀ r, f (.returned who r) = []) (hd : f (.delivered []) = []) :
    gather f (t.events who) = f (.delivered t.delivered) := by
  have hlog : gather f (t.log.map .logged).reverse = [] := gather_eq_nil (by simp [hl])
  unfold events
  rcases h : t.delivered with _ | ⟨m, l⟩ <;> rcases t.progress with _ | r <;> simp [hlog, hr, hd]

@[simp] theorem gather_handed : gather Event.handed (t.events who) = t.delivered :=
  t.gather_events who Event.handed (fun _ => rfl) (fun _ => rfl) rfl

@[simp] theorem gather_moved : gather Event.moved (t.events who) = [] :=
  t.gather_events who Event.moved (fun _ => rfl) (fun _ => rfl) rfl

@[simp] theorem gather_pushed : gather Event.pushed (t.events who) = [] :=
  t.gather_events who Event.pushed (fun _ => rfl) (fun _ => rfl) rfl

@[simp] theorem gather_taken : gather Event.taken (t.events who) = [] :=
  t.gather_events who Event.taken (fun _ => rfl) (fun _ => rfl) rfl

theorem pumps_events (h : (∀ i, who ≠ .watch i) ∨ ∃ op, t.progress = .pending op) {e : Event}
    (he : e ∈ t.events who) : e.pumps = false := by
  simp only [events, List.mem_append, List.mem_reverse, List.mem_map] at he
  rcases he with (he | ⟨r, -, rfl⟩) | he
  · rcases hp : t.progress with op | r <;> rw [hp] at he
    · cases he
    · rw [List.mem_singleton.1 he]
      rcases h with h | ⟨op, h⟩
      · rcases who with i | i | i
        · exact absurd rfl (h i)
        · rfl
        · rfl
      · rw [hp] at h
        cases h
  · rfl
  · split at he
    · cases he
    · rw [List.mem_singleton.1 he]
      rfl

end Turn

namespace Keeper

variable {T : Transport State Op} {k k' : Keeper State Op}

/-- Events happen, newest first, and the sink and the queue change as they say. -/
structure Passes (k k' : Keeper State Op) (es : List Event) : Prop where
  history : k'.history = es ++ k.history
  inbound : k.inbound ++ gather Event.handed es = gather Event.moved es ++ k'.inbound
  queue : k.queue ++ gather Event.pushed es = gather Event.taken es ++ k'.queue
  /-- A pump that returns leaves the sink empty, and is all that its watch does. -/
  prompt : (∀ e ∈ es, e.pumps = false) ∨
    k'.inbound = [] ∧ (es.filterMap Event.watch?).length = 1

namespace Passes

theorem of_plain (es : List Event) (hist : k'.history = es ++ k.history)
    (hin : k'.inbound = k.inbound) (hq : k'.queue = k.queue ++ gather Event.pushed es)
    (hes : ∀ e ∈ es, e.plain = true) : Passes k k' es where
  history := hist
  inbound := by simp [hin, gather_handed_plain hes, gather_moved_plain hes]
  queue := by simp [hq, gather_taken_plain hes]
  prompt := .inl fun e he => (Event.of_plain (hes e he)).2.2.2

/-- An operation has a turn, and then there is no more than a notice. -/
theorem of_turn {who : Actor} {t : Turn State Op} (es : List Event)
    (hist : k'.history = es ++ (t.events who ++ k.history))
    (hin : k'.inbound = k.inbound ++ t.delivered)
    (hq : k'.queue = k.queue ++ gather Event.pushed es) (hes : ∀ e ∈ es, e.plain = true)
    (hwho : (∀ i, who ≠ .watch i) ∨ ∃ op, t.progress = .pending op) :
    Passes k k' (es ++ t.events who) where
  history := by rw [hist, List.append_assoc]
  inbound := by simp [hin, gather_handed_plain hes, gather_moved_plain hes]
  queue := by simp [hq, gather_taken_plain hes]
  prompt := by
    refine .inl fun e he => ?_
    rcases List.mem_append.1 he with he | he
    · exact (Event.of_plain (hes e he)).2.2.2
    · exact t.pumps_events who hwho he

theorem of_quiet (es : List Event) (hist : k'.history = es ++ k.history)
    (hin : k'.inbound = k.inbound) (hq : k'.queue = k.queue)
    (hes : ∀ e ∈ es, e.quiet = true) : Passes k k' es := by
  refine .of_plain es hist hin ?_ fun e he => (Event.of_quiet (hes e he)).1
  rw [gather_eq_nil fun e he => (Event.of_quiet (hes e he)).2, hq, List.append_nil]

theorem of_quietTurn {who : Actor} {t : Turn State Op} (es : List Event)
    (hist : k'.history = es ++ (t.events who ++ k.history))
    (hin : k'.inbound = k.inbound ++ t.delivered) (hq : k'.queue = k.queue)
    (hes : ∀ e ∈ es, e.quiet = true)
    (hwho : (∀ i, who ≠ .watch i) ∨ ∃ op, t.progress = .pending op) :
    Passes k k' (es ++ t.events who) := by
  refine .of_turn es hist hin ?_ (fun e he => (Event.of_quiet (hes e he)).1) hwho
  rw [gather_eq_nil fun e he => (Event.of_quiet (hes e he)).2, hq, List.append_nil]

theorem pumped {i : Nat} {w : Watch Op} {op : Op} {r : Result} (ls : List LogRecord)
    (ht : (k.turn T op).progress = .done r) : ∃ es, Passes k
      (((k.absorb (.watch i) (k.turn T op)).say ls).forward i |>.rest i w) es := by
  have hls : ∀ e ∈ ls.map Event.logged, e.plain = true := by simp
  have hpush : gather Event.pushed (ls.map .logged) = [] := gather_eq_nil (by simp)
  have hwatch : ((k.turn T op).events (.watch i)).filterMap Event.watch? = [i] := by
    simp only [Turn.events, ht]
    split <;> simp [List.filterMap_map, Function.comp_def]
  generalize hin : k.inbound ++ (k.turn T op).delivered = inbound
  rw [rest_eq, forward_eq]
  refine ⟨(if inbound.isEmpty then [] else [.forwarded i inbound]) ++
    (ls.map .logged ++ (k.turn T op).events (.watch i)), ?_, ?_, ?_, .inr ⟨rfl, ?_⟩⟩
  · simp [absorb, say, setWatch, hin]
  · rcases inbound with _ | ⟨m, l⟩ <;>
      simp [gather_handed_plain hls, gather_moved_plain hls, hin, setWatch]
  · rcases inbound with _ | ⟨m, l⟩ <;>
      simp [gather_taken_plain hls, hpush, hin, setWatch, say, absorb]
  · split <;> simp [hwatch, List.filterMap_map, List.filterMap_cons, Function.comp_def]

theorem closed {c : Nat} {op : Op} {a : Answer} (ls ls' : List LogRecord)
    (ha : (Event.answered c a).quiet = true) : ∃ es, Passes k (((((k.absorb (.call c)
      (k.turn T op)).say ls).lower (.call c)).say ls').conclude c a) es := by
  rw [lower_eq]
  refine ⟨_, .of_quietTurn (.answered c a :: (ls'.map .logged ++
    ((if k.state = .disconnected then [] else [.stateSet (.call c) .disconnected]) ++
      ls.map .logged))) ?_ rfl rfl ?_ (.inl (show ∀ i, Actor.call c ≠ .watch i from nofun))⟩
  · simp [conclude, say, setCall, record, absorb]
    rfl
  · simp only [List.forall_mem_cons, List.forall_mem_append]
    refine ⟨ha, by simp, ?_, by simp⟩
    split <;> simp

theorem move {a : Actor} (hm : Move T a k k') : ∃ es, Passes k k' es := by
  have hep : ∀ i j, Actor.episode i ≠ .watch j := nofun
  have hcall : ∀ i j, Actor.call i ≠ .watch j := nofun
  cases hm with
  | say ls => exact ⟨_, .of_quiet (ls.map .logged) rfl rfl rfl (by simp)⟩
  | leave hw hi hst => exact ⟨[], .of_quiet [] rfl rfl rfl nofun⟩
  | sight hw hl hst hu =>
    exact ⟨_, .of_quiet [.invoked _ _, .looked _ _] rfl rfl rfl (by simp)⟩
  | pumping hw hp ht => exact ⟨_, .of_quietTurn [] rfl rfl rfl nofun (.inr ⟨_, ht⟩)⟩
  | pumped ls hw hp ht => exact pumped ls ht
  | ignore hw hl hst hu hn =>
    rw [rest_eq]
    exact ⟨_, .of_quiet [.looked _ _] rfl rfl rfl (by simp)⟩
  | lose hw hl hst hu hseen hs =>
    exact ⟨_, .of_plain [.noticed _ _, .stateSet _ _, .logged _, .looked _ _] rfl rfl rfl
      (by simp)⟩
  | announce he ht hst hl =>
    exact ⟨_, .of_plain [.invoked _ _, .noticed _ _] rfl rfl rfl (by simp)⟩
  | timeOut he ht hst hl =>
    exact ⟨_, .of_plain [.logged _, .noticed _ _, .stateSet _ _] rfl rfl rfl (by simp)⟩
  | succeed he hp ht hst ho =>
    exact ⟨_, .of_turn [.logged _, .noticed _ _, .stateSet _ _] rfl rfl rfl (by simp)
      (.inl (hep _))⟩
  | stop he hi hst =>
    rw [stopEpisode_eq]
    exact ⟨_, .of_quiet _ rfl rfl rfl (by split <;> simp)⟩
  | dialing he hp ht => exact ⟨_, .of_quietTurn [] rfl rfl rfl nofun (.inl (hep _))⟩
  | fail ls he hp ht hst ho =>
    exact ⟨_, .of_quietTurn (ls.map .logged) rfl rfl rfl (by simp)
      (.inl (hep _))⟩
  | drain he hp ht hst ho =>
    rw [stopEpisode_eq]
    exact ⟨_, .of_quietTurn _ rfl rfl rfl (by split <;> simp)
      (.inl (hep _))⟩
  | undo he hp ht hst ho =>
    exact ⟨_, .of_quietTurn [.invoked _ _] rfl rfl rfl (by simp)
      (.inl (hep _))⟩
  | closing he hp ht => exact ⟨_, .of_quietTurn [] rfl rfl rfl nofun (.inl (hep _))⟩
  | beginEpisode hw hp ho =>
    simp only [Keeper.beginEpisode, rest_eq, setWatch, record]
    exact ⟨_, .of_quiet [.episodeBegan _] rfl rfl rfl (by simp)⟩
  | undone ls he hp ht =>
    rw [stopEpisode_eq]
    refine ⟨_, .of_quietTurn _ (List.append_assoc _ (ls.map Event.logged) _).symm rfl rfl ?_
      (.inl (hep _))⟩
    split <;> simp
  | finish hw hp ho => exact ⟨[], .of_quiet [] rfl rfl rfl nofun⟩
  | dial hc hi hs =>
    exact ⟨_, .of_quiet [.invoked _ _] rfl rfl rfl (by simp)⟩
  | send hc hi hs =>
    exact ⟨_, .of_quiet [.invoked _ _] rfl rfl rfl (by simp)⟩
  | claim hc hr => exact ⟨[], .of_quiet [] rfl rfl rfl nofun⟩
  | refuse ls hc hf =>
    exact ⟨_, .of_quiet (.answered _ _ :: ls.map .logged) rfl rfl rfl
      (by simp)⟩
  | messages hc =>
    exact ⟨[.answered _ _, .drained _], rfl, by simp; rfl,
      by simp [conclude, takeQueue, setCall, record], by simp⟩
  | dialingCall hc ht => exact ⟨_, .of_quietTurn [] rfl rfl rfl nofun (.inl (hcall _))⟩
  | dialFailed ls hc ht ho =>
    exact ⟨_, .of_quietTurn (.answered _ _ :: ls.map .logged) rfl rfl rfl
      (by simp) (.inl (hcall _))⟩
  | accept hc ht ho hs =>
    exact ⟨_, .of_quietTurn [.stateSet _ _] rfl rfl rfl (by simp)
      (.inl (hcall _))⟩
  | @ensure c _ _ ls hc =>
    by_cases hp : k.isPolling = true
    · rw [Keeper.ensureWatch, if_pos hp]
      exact ⟨_, .of_quiet (.answered _ _ :: ls.map .logged) rfl rfl rfl
        (by simp)⟩
    · rw [Keeper.ensureWatch, if_neg hp]
      refine ⟨_, .of_quiet (.answered c (.outcome (Outcome.done "Connected")) ::
        (ls.map .logged ++ [.watchBegan k.watches.length])) ?_ rfl rfl
        (by simp [or_imp, forall_and])⟩
      simp [conclude, say, setCall, record]
  | sending hc ht => exact ⟨_, .of_quietTurn [] rfl rfl rfl nofun (.inl (hcall _))⟩
  | sent hc ht =>
    exact ⟨_, .of_quietTurn [.answered _ _] rfl rfl rfl (by simp)
      (.inl (hcall _))⟩
  | join hc hs =>
    rw [raiseStop_eq]
    exact ⟨_, .of_quiet _ rfl rfl rfl (by split <;> simp)⟩
  | @joined _ _ _ i =>
    obtain ⟨s, hk⟩ := abortLastEpisode_eq T i k
    rw [hk]
    exact ⟨[], .of_quiet [] rfl rfl rfl nofun⟩
  | @abort _ _ _ i =>
    obtain ⟨s, hk⟩ := abortWatch_eq T i k
    obtain ⟨s', hk'⟩ := abortLastEpisode_eq T i (k.abortWatch T i)
    rw [hk', hk]
    exact ⟨[], .of_quiet [] rfl rfl rfl nofun⟩
  | close hcl hu =>
    exact ⟨_, .of_quiet [.invoked _ _] rfl rfl rfl (by simp)⟩
  | skip hcl hu =>
    rw [lower_eq]
    refine ⟨_, .of_quiet (.answered _ _ :: _) rfl rfl rfl ?_⟩
    split <;> simp
  | closingCall hc ht => exact ⟨_, .of_quietTurn [] rfl rfl rfl nofun (.inl (hcall _))⟩
  | @closed _ _ ending _ _ ls ls' hc ht => exact closed ls ls' (by rcases ending <;> rfl)
  | @release _ _ i =>
    obtain ⟨s, hk⟩ := abortLastEpisode_eq T i ({ k with slot := none }.raiseStop i)
    rw [hk, raiseStop_eq]
    exact ⟨_, .of_quiet _ rfl rfl rfl (by split <;> simp)⟩

end Passes

/-- What is handed over in a move was delivered by a turn of the transport. -/
theorem handed_of_move (hm : Move T a k k') :
    gather Event.handed k'.history = gather Event.handed k.history ∨
      ∃ op, gather Event.handed k'.history
        = gather Event.handed k.history ++ (k.turn T op).delivered := by
  have hlog : ∀ ls : List LogRecord, gather Event.handed (ls.map .logged) = [] :=
    fun ls => gather_eq_nil (by simp)
  cases hm with
  | ensure ls =>
    left
    unfold ensureWatch
    split <;> simp [conclude, say, record, setCall, hlog]
  | @joined _ _ _ i =>
    obtain ⟨s, hk⟩ := abortLastEpisode_eq T i k
    left
    rw [hk]
  | @abort _ _ _ i =>
    obtain ⟨s, hk⟩ := abortWatch_eq T i k
    obtain ⟨s', hk'⟩ := abortLastEpisode_eq T i (k.abortWatch T i)
    left
    rw [hk', hk]
  | @release _ _ i =>
    obtain ⟨s, hk⟩ := abortLastEpisode_eq T i ({ k with slot := none }.raiseStop i)
    left
    rw [hk, raiseStop_eq]
    split <;> simp
  | _ =>
    simp only [lose, announce, timeOut, succeed, restEpisode, log_eq, stopEpisode_eq, lower_eq,
      forward_eq, rest_eq, raiseStop_eq, conclude, say, absorb, record, setCall, setEpisode,
      setWatch, setState, notify, leave, beginEpisode, takeQueue, gather_append, gather_cons,
      gather_nil, hlog, apply_ite (gather Event.handed), Event.handed, Turn.gather_handed,
      List.append_nil, ite_self]
    first | exact .inl trivial | exact .inr ⟨_, rfl⟩

/-- Nothing is lost, doubled or put out of order on the way to the one who takes the messages. -/
structure Delivers (k : Keeper State Op) : Prop where
  inbound : gather Event.handed k.history = gather Event.moved k.history ++ k.inbound
  queue : gather Event.pushed k.history = gather Event.taken k.history ++ k.queue
  /-- What had been handed over when a pump returned has been moved. -/
  served : ∀ {a b : List Event} {i : Nat} {r : Result},
    k.history = b ++ .returned (.watch i) r :: a →
    gather Event.handed a <+: gather Event.moved k.history
  /-- It was moved before the watch of the pump went on. -/
  prompt : ∀ {a b c : List Event} {e : Event} {i : Nat} {r : Result},
    k.history = c ++ e :: (b ++ .returned (.watch i) r :: a) → e.watch? = some i →
    gather Event.handed a <+: gather Event.moved (b ++ .returned (.watch i) r :: a)

namespace Delivers

theorem fresh {config : LinkConfig} {transport : State} {installed : Bool} :
    Delivers (Keeper.fresh config transport installed : Keeper State Op) where
  inbound := rfl
  queue := rfl
  served h := by simp [Keeper.fresh] at h
  prompt h := by simp [Keeper.fresh] at h

theorem served_pass {es a b : List Event} {i : Nat} {r : Result} (hk : Delivers k)
    (hp : Passes k k' es) (hin : gather Event.handed k'.history =
      gather Event.moved k'.history ++ k'.inbound)
    (h : k'.history = b ++ .returned (.watch i) r :: a) :
    gather Event.handed a <+: gather Event.moved k'.history := by
  rw [hp.history] at h
  rcases append_eq_append_cons h with ⟨b, -, hb⟩ | ⟨c, hes, -⟩
  · have hold := hk.served hb
    rw [hp.history]
    exact hold.trans (gather_prefix_append _ _)
  · have hmem : Event.returned (.watch i) r ∈ es := by simp [hes]
    have hempty : k'.inbound = [] := by
      rcases hp.prompt with hno | ⟨hempty, -⟩
      · exact absurd (hno _ hmem) (by simp)
      · exact hempty
    rw [hempty, List.append_nil] at hin
    rw [← hin, hp.history, h, ← List.singleton_append, ← List.append_assoc]
    exact gather_prefix_append _ _

theorem prompt_pass {es a b c : List Event} {e : Event} {i : Nat} {r : Result} (hk : Delivers k)
    (hp : Passes k k' es) (h : k'.history = c ++ e :: (b ++ .returned (.watch i) r :: a))
    (he : e.watch? = some i) :
    gather Event.handed a <+: gather Event.moved (b ++ .returned (.watch i) r :: a) := by
  rw [hp.history] at h
  rcases append_eq_append_cons h with ⟨c, -, hc⟩ | ⟨d, hes, hd⟩
  · exact hk.prompt hc he
  -- the event is new: so is the return before it, or it was served before
  rcases append_eq_append_cons hd.symm with ⟨b, hb, hold⟩ | ⟨d, rfl, -⟩
  · rw [hd]
    exact (hk.served hold).trans (gather_prefix_append _ _)
  · rcases hp.prompt with hno | ⟨-, hone⟩
    · exact absurd (hno (.returned (.watch i) r) (by simp [hes])) (by simp)
    · have hreturn : (Event.returned (.watch i) r).watch? = some i := rfl
      simp only [hes, List.filterMap_append, List.filterMap_cons, he, hreturn, List.length_append,
        List.length_cons] at hone
      omega

/-- What happens to the sink and the queue as the history says keeps messages together. -/
theorem pass {es : List Event} (hk : Delivers k) (hp : Passes k k' es) : Delivers k' := by
  have hin : gather Event.handed k'.history = gather Event.moved k'.history ++ k'.inbound := by
    rw [hp.history, gather_append, gather_append, hk.inbound, List.append_assoc, hp.inbound,
      List.append_assoc]
  refine ⟨hin, ?_, hk.served_pass hp hin, hk.prompt_pass hp⟩
  rw [hp.history, gather_append, gather_append, hk.queue, List.append_assoc, hp.queue,
    List.append_assoc]

theorem move {a : Actor} (hm : Move T a k k') (hk : Delivers k) : Delivers k' := by
  obtain ⟨es, hp⟩ := Passes.move hm
  exact hk.pass hp

theorem befall {s : Step State} (hb : Befalls k s k') (hk : Delivers k) : Delivers k' := by
  cases hb with
  | call r => exact hk.pass (.of_quiet [.called _ r] rfl rfl rfl (by simp))
  | pass ms => exact hk.pass (.of_quiet [] rfl rfl rfl (by simp))
  | disturb s => exact hk.pass (.of_quiet [] rfl rfl rfl (by simp))
  | drop => exact hk.pass (.of_quiet [] rfl rfl rfl (by simp))

end Delivers

/-- The transport hands messages to the sink while no operation has a turn. -/
def hand (l : List String) (k : Keeper State Op) : Keeper State Op :=
  { k with inbound := k.inbound ++ l }.record (.delivered l)

/-- Runs in which messages may also come between two turns. -/
inductive Trades (T : Transport State Op) (k : Keeper State Op) : Keeper State Op → Prop
  | refl : Trades T k k
  | step {k₁ k₂ s} : Trades T k k₁ → k₁.next? T s = some k₂ → Trades T k k₂
  | hand {k₁} (l) : Trades T k k₁ → Trades T k (k₁.hand l)

theorem Runs.trades {k₀ : Keeper State Op} {ss : List (Step State)} (h : Runs T k ss k')
    (h₀ : Trades T k₀ k) : Trades T k₀ k' := by
  induction h with
  | nil => exact h₀
  | cons hn _ ih => exact ih (h₀.step hn)

theorem Delivers.run {k₀ : Keeper State Op} (h : Trades T k₀ k) (hk : Delivers k₀) :
    Delivers k := by
  induction h with
  | refl => exact hk
  | step _ hn ih => exact next?_keeps Delivers.move (fun _ hb => ih.befall hb) hn ih
  | @hand k₁ l _ ih =>
    have hp : Passes k₁ (k₁.hand l) [.delivered l] :=
      ⟨rfl, by simp [Keeper.hand, record], by simp [Keeper.hand, record], by simp⟩
    exact ih.pass hp

/-- Whatever the transport hands over, in turns and between them, is moved into the queue in order
and once each, or waits in the sink; and whatever is put into the queue is taken out of it in order,
or waits there. All that was handed over before an operation of a watch returned has been moved
before that watch does anything else, and so before any notice that it puts into the queue later. -/
theorem messages_of_trades {config : LinkConfig} {transport : State} {installed : Bool}
    (h : Trades T (fresh config transport installed) k) :
    gather Event.handed k.history = gather Event.moved k.history ++ k.inbound ∧
    gather Event.pushed k.history = gather Event.taken k.history ++ k.queue ∧
    (∀ a b i r, k.history = b ++ .returned (.watch i) r :: a →
      gather Event.handed a <+: gather Event.moved k.history) ∧
    (∀ a b c e i r, k.history = c ++ e :: (b ++ .returned (.watch i) r :: a) →
      e.watch? = some i →
      gather Event.handed a <+: gather Event.moved (b ++ .returned (.watch i) r :: a)) ∧
    (∀ a b c i r n, k.history = c ++ .noticed (.watch i) n :: (b ++ .returned (.watch i) r :: a) →
      ∃ l l', gather Event.pushed k.history = l ++ n.message :: l' ∧
        (gather Event.handed a).Sublist l) := by
  have hk := Delivers.run h .fresh
  refine ⟨hk.inbound, hk.queue, fun a b i r => hk.served, fun a b c e i r => hk.prompt, ?_⟩
  intro a b c i r n hn
  have hmoved := hk.prompt hn rfl
  refine ⟨gather Event.pushed (b ++ .returned (.watch i) r :: a), gather Event.pushed c, ?_,
    hmoved.sublist.trans (gather_moved_sublist _)⟩
  rw [hn, gather_append, gather_cons]
  simp

/-- Two messages arrive with a pump that fails, a third between two turns, and then the link is
lost. -/
def losingSteps : List (Step Rehearsal.Stage) :=
  [.call (.connect none none), .resume (.call 0), .resume (.call 0), .resume (.watch 0),
    .disturb { up := true, hasSink := true, inbound := ["a", "b"], pumpFault := true }, .pass 10,
    .resume (.watch 0), .disturb {}, .pass 10, .resume (.watch 0)]

theorem messages_of_trades_lost : ∃ k a l l',
    Trades Rehearsal.stage (fresh {} { hasSink := true } true) k ∧
    gather Event.handed a = ["a", "b"] ∧ ["a", "b"].Sublist l ∧
    gather Event.pushed k.history = l ++ (Notice.lost 300).message :: l' ∧
    gather Event.handed k.history = gather Event.moved k.history ++ ["c"] ∧
    gather Event.pushed k.history = gather Event.taken k.history ++ k.queue := by
  obtain ⟨k, a, b, c, f, hr, hin, hhist, ha⟩ :
      ∃ (k : Keeper Rehearsal.Stage Rehearsal.Op) (a b c : List Event) (f : TransportFault),
      Runs Rehearsal.stage (fresh {} { hasSink := true } true) losingSteps k ∧ k.inbound = [] ∧
      k.history = c ++ .noticed (.watch 0) (.lost 300) ::
        (b ++ .returned (.watch 0) (.error f) :: a) ∧ gather Event.handed a = ["a", "b"] := by
    refine ⟨_, _, [_, _, _, _, _], [_], _, .cons rfl <| .cons rfl <| .cons rfl <| .cons rfl <|
      .cons rfl <| .cons rfl <| .cons rfl <| .cons rfl <| .cons rfl <| .cons rfl <| .nil _,
      rfl, rfl, ?_⟩
    rfl
  have h : Trades Rehearsal.stage (fresh {} { hasSink := true } true) (k.hand ["c"]) :=
    .hand ["c"] (hr.trades .refl)
  obtain ⟨hhanded, hpushed, -, -, hbefore⟩ := messages_of_trades h
  obtain ⟨l, l', hl, hsub⟩ := hbefore a b (.delivered ["c"] :: c) 0 (.error f) (.lost 300)
    (by simp [Keeper.hand, record, hhist])
  refine ⟨_, a, l, l', h, ha, ha ▸ hsub, hl, ?_, hpushed⟩
  simpa [Keeper.hand, record, hin] using hhanded

end Keeper

end SessionKeeper

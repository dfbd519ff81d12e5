import SessionKeeper.Mailbox
import Mathlib

/-!
# Nothing is lost between handles

A record of actions says through a handle on which queue each was taken and what it was answered.
Whatever is done in whatever order, the batches appended to a queue fall into groups that follow one
another: each drain took one group whole, and the last group is what is left (`Conserves`). An
action touches the queue of its own handle and no other (`Minds`), so an action more keeps all
queues so (`Kept.act`), and any number of them does (`conserved_of_run`).
-/

namespace SessionKeeper.Mailroom

/-- The handle that an action is taken through. -/
def Action.handle? : Action → Option Nat
  | .push h _ | .extend h _ | .drain h | .clone h => some h
  | .openQueue => none

/-- What an action appends, all at once. -/
def Action.batch : Action → Option (List String)
  | .push _ t => some [t]
  | .extend _ l => some l
  | .drain _ | .clone _ | .openQueue => none

/-- An action that was taken. -/
structure Entry where
  action : Action
  /-- The queue of the handle that it was taken through. -/
  queue : Option Nat
  answer : Option (List String)

/-- The queue of the handle that an action is taken through. -/
def queueOf (m : Mailroom) (a : Action) : Option Nat := a.handle?.bind (m.handles[·]?)

/-- The mailroom after actions. -/
def run (m : Mailroom) (as : List Action) : Mailroom := as.foldl (fun m a => (m.act a).2) m

/-- What is done and answered in a run. -/
def record : Mailroom → List Action → List Entry
  | _, [] => []
  | m, a :: as => ⟨a, m.queueOf a, (m.act a).1⟩ :: record (m.act a).2 as

/-- The messages that wait in a queue, oldest first. -/
def left (m : Mailroom) (q : Nat) : List String := (m.queues[q]?).getD []

/-- The batches appended to a queue, in the order in which they were. -/
def appended (q : Nat) (es : List Entry) : List (List String) :=
  es.filterMap fun e => if e.queue = some q then e.action.batch else none

/-- What the drains of a queue took, in the order of the drains. -/
def taken (q : Nat) (es : List Entry) : List (List String) :=
  es.filterMap fun e => if e.queue = some q then e.answer else none

/-- What was appended to a queue has been drained from it or is left, in order, and each batch as a
whole by one drain. -/
structure Conserves (q : Nat) (es : List Entry) (left : List String) : Prop where
  messages : (taken q es).flatten ++ left = (appended q es).flatten
  batches : ∃ (groups : List (List (List String))) (rest : List (List String)),
    appended q es = groups.flatten ++ rest ∧ taken q es = groups.map List.flatten ∧
      left = rest.flatten

/-- An action changes no queue but that of its handle, and no handle; a drain leaves nothing, a
clone is a handle on the same queue, and a new queue is empty and has a handle of its own. -/
structure Minds (m : Mailroom) (a : Action) (m' : Mailroom) : Prop where
  others : ∀ q < m.queues.length, m.queueOf a ≠ some q → m'.queues[q]? = m.queues[q]?
  handles : ∀ h < m.handles.length, m'.handles[h]? = m.handles[h]?
  emptied : ∀ h, a = .drain h → m'.waiting h = []
  cloned : ∀ h < m.handles.length, a = .clone h →
    m'.handles[m.handles.length]? = m.handles[h]?
  opened : a = .openQueue → m'.handles[m.handles.length]? = some m.queues.length ∧
    m'.queues[m.queues.length]? = some []

section Acts

variable {m : Mailroom} {a : Action} {h q : Nat} {f : List String → List String}

theorem handles_modify : (m.modify h f).handles = m.handles := by
  unfold modify
  split <;> rfl

theorem length_queues_modify : (m.modify h f).queues.length = m.queues.length := by
  unfold modify
  split <;> simp

theorem getElem?_modify_of_ne (hne : m.handles[h]? ≠ some q) :
    (m.modify h f).queues[q]? = m.queues[q]? := by
  unfold modify
  split
  · rename_i p hp
    have hpq : p ≠ q := fun heq => hne (by rw [hp, heq])
    simp [hpq]
  · rfl

theorem left_modify_of_ne (hne : m.handles[h]? ≠ some q) : (m.modify h f).left q = m.left q := by
  rw [left, left, getElem?_modify_of_ne hne]

theorem left_modify (hh : m.handles[h]? = some q) (hq : q < m.queues.length) :
    (m.modify h f).left q = f (m.left q) := by
  simp [left, modify, hh, hq]

theorem waiting_eq (hh : m.handles[h]? = some q) : m.waiting h = m.left q := by
  rw [waiting, hh, left]

theorem waiting_modify_nil (m : Mailroom) (h : Nat) : (m.modify h fun _ => []).waiting h = [] := by
  unfold waiting modify
  rcases hh : m.handles[h]? with _ | q
  · simp [hh]
  · rcases hq : m.queues[q]? <;> simp [hh, hq]

/-- A handle on a queue tells how many messages wait in it. -/
theorem getElem?_lengths (hh : m.handles[h]? = some q) :
    m.lengths[h]? = some (m.left q).length := by
  have hlt : h < m.handles.length := (List.getElem?_eq_some_iff.1 hh).1
  simp [lengths, hlt, waiting_eq hh]

theorem minds_act (m : Mailroom) (a : Action) : Minds m a (m.act a).2 := by
  -- what a push, an extension and a drain have in common
  have hothers : ∀ h f, a.handle? = some h → ∀ q < m.queues.length, m.queueOf a ≠ some q →
      (m.modify h f).queues[q]? = m.queues[q]? := by
    intro h f hh q _ hne
    rw [queueOf, hh] at hne
    exact getElem?_modify_of_ne hne
  have hhandles : ∀ h f, ∀ n < m.handles.length, (m.modify h f).handles[n]? = m.handles[n]? :=
    fun h f n _ => by rw [handles_modify]
  cases a with
  | push h t => exact ⟨hothers h _ rfl, hhandles h _, by simp, by simp, by simp⟩
  | extend h l => exact ⟨hothers h _ rfl, hhandles h _, by simp, by simp, by simp⟩
  | drain h =>
    refine ⟨hothers h _ rfl, hhandles h _, fun n hn => ?_, by simp, by simp⟩
    obtain rfl := Action.drain.inj hn
    exact waiting_modify_nil m h
  | clone h =>
    rcases hh : m.handles[h]? with _ | p
    · have hout : m.handles.length ≤ h := List.getElem?_eq_none_iff.1 hh
      refine ⟨fun q _ _ => ?_, fun n _ => ?_, by simp, fun n hn ha => ?_, by simp⟩
      · simp [act, clone, hh]
      · simp [act, clone, hh]
      · cases ha
        omega
    · refine ⟨fun q _ _ => ?_, fun n hn => ?_, by simp, fun n _ ha => ?_, by simp⟩
      · simp [act, clone, hh]
      · simp [act, clone, hh, List.getElem?_append_left hn]
      · cases ha
        simp [act, clone, hh]
  | openQueue =>
    refine ⟨fun q hq _ => ?_, fun n hn => ?_, by simp, by simp, fun _ => ⟨?_, ?_⟩⟩
    · simp [act, openQueue, List.getElem?_append_left hq]
    · simp [act, openQueue, List.getElem?_append_left hn]
    · simp [act, openQueue]
    · simp [act, openQueue]

end Acts

section Records

variable {q : Nat} {es : List Entry} {e : Entry} {left : List String}

theorem Conserves.of_batches (groups : List (List (List String))) (rest : List (List String))
    (ha : appended q es = groups.flatten ++ rest) (ht : taken q es = groups.map List.flatten) :
    Conserves q es rest.flatten := by
  refine ⟨?_, groups, rest, ha, ht, rfl⟩
  rw [ha, ht, List.flatten_append, List.flatten_flatten]

/-- Actions on other queues, and clones, leave the account of a queue as it is. -/
theorem Conserves.pass (hc : Conserves q es left)
    (he : e.queue = some q → e.action.batch = none ∧ e.answer = none) :
    Conserves q (es ++ [e]) left := by
  have ha : appended q (es ++ [e]) = appended q es := by
    by_cases hq : e.queue = some q <;> simp_all [appended]
  have ht : taken q (es ++ [e]) = taken q es := by
    by_cases hq : e.queue = some q <;> simp_all [taken]
  obtain ⟨groups, rest, hga, hgt, rfl⟩ := hc.batches
  exact .of_batches groups rest (ha.trans hga) (ht.trans hgt)

theorem Conserves.append {l : List String} (hc : Conserves q es left) (hq : e.queue = some q)
    (hb : e.action.batch = some l) (hn : e.answer = none) :
    Conserves q (es ++ [e]) (left ++ l) := by
  obtain ⟨groups, rest, hga, hgt, rfl⟩ := hc.batches
  have ha : appended q (es ++ [e]) = groups.flatten ++ (rest ++ [l]) := by
    rw [← List.append_assoc, ← hga]
    simp [appended, hq, hb]
  have ht : taken q (es ++ [e]) = groups.map List.flatten := by
    rw [← hgt]
    simp [taken, hn]
  simpa using Conserves.of_batches groups (rest ++ [l]) ha ht

/-- A drain takes the last group, and nothing is left. -/
theorem Conserves.drain (hc : Conserves q es left) (hq : e.queue = some q)
    (hb : e.action.batch = none) (hn : e.answer = some left) : Conserves q (es ++ [e]) [] := by
  obtain ⟨groups, rest, hga, hgt, rfl⟩ := hc.batches
  have ha : appended q (es ++ [e]) = (groups ++ [rest]).flatten ++ [] := by
    rw [List.append_nil, List.flatten_concat, ← hga]
    simp [appended, hb]
  have ht : taken q (es ++ [e]) = (groups ++ [rest]).map List.flatten := by
    rw [List.map_append, ← hgt]
    simp [taken, hq, hn]
  exact .of_batches (groups ++ [rest]) [] ha ht

end Records

/-- Handles are on queues, and of every queue, also those to come, nothing is lost. -/
structure Kept (m : Mailroom) (es : List Entry) : Prop where
  bound : ∀ h q : Nat, m.handles[h]? = some q → q < m.queues.length
  conserves : ∀ q, Conserves q es (m.left q)

namespace Kept

variable {m : Mailroom} {es : List Entry}

theorem empty : Kept {} [] :=
  ⟨by simp, fun _ => Conserves.of_batches [] [] rfl rfl⟩

theorem bound_act (hk : Kept m es) (a : Action) {h q : Nat}
    (hh : (m.act a).2.handles[h]? = some q) : q < (m.act a).2.queues.length := by
  have hmodify : ∀ (n : Nat) (f : List String → List String),
      (m.modify n f).handles[h]? = some q → q < (m.modify n f).queues.length := by
    intro n f hn
    rw [handles_modify] at hn
    rw [length_queues_modify]
    exact hk.bound h q hn
  have hconcat : ∀ p, (m.handles ++ [p])[h]? = some q → q < m.queues.length ∨ q = p := by
    intro p hp
    rcases List.mem_append.1 (List.mem_of_getElem? hp) with hm | hm
    · obtain ⟨n, hn⟩ := List.mem_iff_getElem?.1 hm
      exact .inl (hk.bound n q hn)
    · exact .inr (List.mem_singleton.1 hm)
  cases a with
  | push n t => exact hmodify n _ hh
  | extend n l => exact hmodify n _ hh
  | drain n => exact hmodify n _ hh
  | clone n =>
    rcases hn : m.handles[n]? with _ | p
    · simp only [act, clone, hn] at hh ⊢
      exact hk.bound h q hh
    · simp only [act, clone, hn] at hh ⊢
      rcases hconcat p hh with hq | rfl
      · exact hq
      · exact hk.bound n q hn
  | openQueue =>
    simp only [act, openQueue, List.length_append, List.length_singleton] at hh ⊢
    rcases hconcat _ hh with hq | hq <;> omega

/-- An action that is taken once more is accounted for. -/
theorem act (hk : Kept m es) (a : Action) :
    Kept (m.act a).2 (es ++ [⟨a, m.queueOf a, (m.act a).1⟩]) := by
  refine ⟨fun h q => hk.bound_act a, fun q => ?_⟩
  have hc := hk.conserves q
  have hextend : ∀ (h : Nat) (l : List String) (a : Action), a.handle? = some h →
      a.batch = some l → Conserves q (es ++ [⟨a, m.queueOf a, none⟩])
        ((m.modify h (· ++ l)).left q) := by
    intro h l a hh hb
    by_cases hq : m.handles[h]? = some q
    · rw [left_modify hq (hk.bound h q hq)]
      exact hc.append (by simp [queueOf, hh, hq]) hb rfl
    · rw [left_modify_of_ne hq]
      exact hc.pass fun he => absurd (by simpa [queueOf, hh] using he) hq
  cases a with
  | push h t => exact hextend h [t] (.push h t) rfl rfl
  | extend h l => exact hextend h l (.extend h l) rfl rfl
  | drain h =>
    simp only [Mailroom.act, Mailroom.drain]
    by_cases hq : m.handles[h]? = some q
    · rw [left_modify hq (hk.bound h q hq), waiting_eq hq]
      exact hc.drain (by simp [queueOf, Action.handle?, hq]) rfl rfl
    · rw [left_modify_of_ne hq]
      exact hc.pass fun he => absurd (by simpa [queueOf, Action.handle?] using he) hq
  | clone h =>
    have hl : (m.clone h).left q = m.left q := by
      unfold clone
      split <;> rfl
    simp only [Mailroom.act, hl]
    exact hc.pass fun _ => ⟨rfl, rfl⟩
  | openQueue =>
    have hl : m.openQueue.left q = m.left q := by
      rcases Nat.lt_trichotomy q m.queues.length with hq | hq | hq
      · simp [left, openQueue, List.getElem?_append_left hq]
      · simp [left, openQueue, hq]
      · simp [left, openQueue, List.getElem?_eq_none, Nat.le_of_lt hq, Nat.succ_le_of_lt hq]
    simp only [Mailroom.act, hl]
    exact hc.pass fun _ => ⟨rfl, rfl⟩

theorem run (hk : Kept m es) (as : List Action) : Kept (m.run as) (es ++ m.record as) := by
  induction as generalizing m es with
  | nil => simpa [Mailroom.run, record] using hk
  | cons a as ih => simpa [Mailroom.run, record] using ih (hk.act a)

end Kept

/-- Whatever is done through whatever handles: of each queue the drains took what was appended, in
order and each batch in one drain, up to what is left; its handles all tell the number of messages
left, which is that of those appended less those drained; and an action more leaves other queues
alone. -/
theorem conserved_of_run (as : List Action) :
    (∀ q, Conserves q (record {} as) ((run {} as).left q)) ∧
      (∀ h q : Nat, (run {} as).handles[h]? = some q →
        (run {} as).queues[q]? = some ((run {} as).left q) ∧
        (run {} as).lengths[h]? = some ((run {} as).left q).length ∧
        ((run {} as).left q).length + (taken q (record {} as)).flatten.length
          = (appended q (record {} as)).flatten.length) ∧
      ∀ a, Minds (run {} as) a ((run {} as).act a).2 := by
  have hk : Kept (run {} as) (record {} as) := by simpa using Kept.empty.run as
  refine ⟨hk.conserves, fun h q hh => ⟨?_, getElem?_lengths hh, ?_⟩, minds_act _⟩
  · have hq := hk.bound h q hh
    simp [left, hq]
  · have hlen := congrArg List.length (hk.conserves q).messages
    rw [List.length_append] at hlen
    omega

/-- Two handles on one queue and one on another: a batch and a message are drained together, and a
later message is left. -/
def sharedActions : List Action :=
  [.openQueue, .clone 0, .openQueue, .extend 1 ["a", "b"], .push 2 "x", .push 0 "c", .drain 1,
    .push 0 "d"]

theorem conserved_of_run_shared :
    Conserves 0 (record {} sharedActions) ["d"] ∧
      taken 0 (record {} sharedActions) = [["a", "b", "c"]] ∧
      appended 0 (record {} sharedActions) = [["a", "b"], ["c"], ["d"]] ∧
      (run {} sharedActions).lengths[1]? = some 1 ∧ (run {} sharedActions).queues[1]? = some ["x"] ∧
      Minds (run {} sharedActions) (.drain 1) ((run {} sharedActions).act (.drain 1)).2 := by
  obtain ⟨hconserves, hhandles, hminds⟩ := conserved_of_run sharedActions
  obtain ⟨-, hlength, -⟩ := hhandles 1 0 rfl
  obtain ⟨hother, -, -⟩ := hhandles 2 1 rfl
  exact ⟨hconserves 0, rfl, rfl, hlength, hother, hminds (.drain 1)⟩

end SessionKeeper.Mailroom

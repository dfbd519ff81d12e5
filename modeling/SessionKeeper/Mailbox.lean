/-!
# Message queues and their handles

A queue is a list of messages that a consumer takes as a whole. It is held by handles: cloning a
handle gives another one on the same queue. A `Mailroom` holds all queues and handles; queues are
numbered in the order in which they were made, and so are handles.
-/

namespace SessionKeeper

structure Mailroom where
  queues : List (List String) := []
  /-- The queue of each handle. -/
  handles : List Nat := []
  deriving DecidableEq, Repr

namespace Mailroom

/-- One empty queue with one handle. -/
def single : Mailroom := ⟨[[]], [0]⟩

/-- The messages that wait in the queue of a handle, oldest first. -/
def waiting (m : Mailroom) (handle : Nat) : List String :=
  match m.handles[handle]? with
  | some q => (m.queues[q]?).getD []
  | none => []

/-- Changes the queue of a handle. -/
def modify (m : Mailroom) (handle : Nat) (f : List String → List String) : Mailroom :=
  match m.handles[handle]? with
  | some q => { m with queues := m.queues.modify q f }
  | none => m

def extend (m : Mailroom) (handle : Nat) (messages : List String) : Mailroom :=
  m.modify handle (· ++ messages)

def push (m : Mailroom) (handle : Nat) (message : String) : Mailroom :=
  m.extend handle [message]

/-- Takes every message that waits. -/
def drain (m : Mailroom) (handle : Nat) : List String × Mailroom :=
  (m.waiting handle, m.modify handle fun _ => [])

/-- Adds a handle on the same queue. -/
def clone (m : Mailroom) (handle : Nat) : Mailroom :=
  match m.handles[handle]? with
  | some q => { m with handles := m.handles ++ [q] }
  | none => m

/-- Adds an empty queue with a handle of its own. -/
def openQueue (m : Mailroom) : Mailroom :=
  { queues := m.queues ++ [[]], handles := m.handles ++ [m.queues.length] }

inductive Action
  | push (handle : Nat) (message : String)
  | extend (handle : Nat) (messages : List String)
  | drain (handle : Nat)
  | clone (handle : Nat)
  | openQueue
  deriving DecidableEq, Repr

/-- The mailroom after an action, and the messages that a drain took. -/
def act (m : Mailroom) : Action → Option (List String) × Mailroom
  | .push h t => (none, m.push h t)
  | .extend h l => (none, m.extend h l)
  | .drain h => ((m.drain h).1, (m.drain h).2)
  | .clone h => (none, m.clone h)
  | .openQueue => (none, m.openQueue)

/-- The number of messages that wait, by handle. -/
def lengths (m : Mailroom) : List Nat :=
  (List.range m.handles.length).map fun h => (m.waiting h).length

end Mailroom

end SessionKeeper

import SessionKeeper.Keeper.Step
import Mathlib

/-!
# The pace of an episode

An episode rests for a second at least after an attempt, so the attempts that begin within its
bound are few (`lt_mostAttempts`, `mul_le_elapsed`), and each has fewer seconds left than the one
before (`remaining_lt`).
-/

namespace SessionKeeper

namespace LinkConfig

variable (c : LinkConfig)

/-- The pause after an attempt, in milliseconds. -/
def pause : Nat := min c.reconnectInterval longestWait

/-- How many seconds an episode has left. -/
def remaining (after : Nat) : UInt64 := UInt64.ofNat ((c.reconnectTimeout - after) / 1000)

/-- The greatest number of attempts of an episode: its bound over the pause, rounded up. -/
def mostAttempts : Nat := (c.reconnectTimeout + c.pause - 1) / c.pause

variable {c}

theorem le_pause (h : 0 < c.reconnectIntervalSecs) : 1000 ≤ c.pause := by
  have hpos : 0 < c.reconnectIntervalSecs.toNat := UInt64.lt_iff_toNat_lt.1 h
  unfold pause reconnectInterval longestWait
  omega

theorem lt_mostAttempts (hpos : 0 < c.pause) (n : Nat) :
    n < c.mostAttempts ↔ n * c.pause < c.reconnectTimeout := by
  unfold mostAttempts
  rw [Nat.lt_div_iff_mul_lt hpos]
  omega

theorem toNat_remaining (after : Nat) :
    (c.remaining after).toNat = (c.reconnectTimeout - after) / 1000 := by
  have hlt := c.reconnectTimeoutSecs.toNat_lt
  unfold remaining reconnectTimeout
  rw [UInt64.toNat_ofNat_of_lt']
  show _ < 2 ^ 64
  omega

/-- A second later there is a second less left. -/
theorem remaining_lt {after after' : Nat} (h : after + 1000 ≤ after')
    (hlt : after' < c.reconnectTimeout) : c.remaining after' < c.remaining after := by
  rw [UInt64.lt_iff_toNat_lt, toNat_remaining, toNat_remaining]
  omega

end LinkConfig

/-- Whether an attempt with this result got the connection back. -/
def Result.won (r : Result) (up : Bool) : Bool :=
  match r with
  | .ok code => code == StatusCode.ok && up
  | .error _ => false

/-- What came of one attempt. -/
structure Try where
  took : Nat
  result : Result
  /-- Whether the link was up at its end. -/
  up : Bool

def Try.won (t : Try) : Bool := Result.won t.result t.up

/-- How long after the start of an episode the attempt after some others would begin. -/
def elapsed (pause : Nat) (ts : List Try) : Nat := (ts.map fun t => t.took + pause).sum

section Elapsed

variable (pause : Nat) (t : Try) (ts us : List Try)

@[simp] theorem elapsed_nil : elapsed pause [] = 0 := rfl

@[simp] theorem elapsed_cons : elapsed pause (t :: ts) = t.took + pause + elapsed pause ts := rfl

theorem elapsed_append : elapsed pause (ts ++ us) = elapsed pause ts + elapsed pause us := by
  simp [elapsed]

@[simp] theorem elapsed_concat :
    elapsed pause (ts ++ [t]) = elapsed pause ts + t.took + pause := by
  simp [elapsed_append, Nat.add_assoc]

theorem mul_le_elapsed : ts.length * pause ≤ elapsed pause ts := by
  induction ts with
  | nil => simp
  | cons t ts ih =>
    rw [elapsed_cons, List.length_cons, Nat.succ_mul]
    omega

variable {ts}

theorem elapsed_le {d : Nat} (h : ∀ t ∈ ts, t.took ≤ d) :
    elapsed pause ts ≤ ts.length * (d + pause) := by
  induction ts with
  | nil => simp
  | cons t ts ih =>
    have ht := h t List.mem_cons_self
    have hts := ih fun u hu => h u (List.mem_cons_of_mem t hu)
    rw [elapsed_cons, List.length_cons, Nat.succ_mul]
    omega

/-- Attempts begin a pause apart at least. -/
theorem elapsed_take_le {n m : Nat} (hnm : n < m) (hm : m ≤ ts.length) :
    elapsed pause (ts.take n) + pause ≤ elapsed pause (ts.take m) := by
  have hsplit := List.take_append_drop n (ts.take m)
  rw [List.take_take, Nat.min_eq_left (Nat.le_of_lt hnm)] at hsplit
  have hlen : 1 ≤ ((ts.take m).drop n).length := by
    rw [List.length_drop, List.length_take]
    omega
  have hrest := mul_le_elapsed pause ((ts.take m).drop n)
  have hone := Nat.mul_le_mul_right pause hlen
  rw [← hsplit, elapsed_append]
  omega

end Elapsed

end SessionKeeper

import SessionKeeper.Datum
import SessionKeeper.Number.Shortest

/-!
# Numbers in JSON texts

A number without point and exponent that fits 64 bits, signed or not, is an integer; any other is a
double. A double is made of the longest run of leading digits that fits 64 bits, rounded, and then
multiplied or divided by a power of ten that is rounded too.
-/

namespace SessionKeeper.Json

/-- The text of a number. Digits stand in reverse. -/
structure NumberText where
  negative : Bool := false
  whole : List Char := []
  /-- The digits after the point, of which a number with a point has at least one. -/
  fraction : List Char := []
  exponentNegative : Bool := false
  /-- The digits of the exponent, of which a number with an exponent has at least one. -/
  exponent : List Char := []

def digitValue (c : Char) : Nat := c.toNat - '0'.toNat

/-- The greatest unsigned number of 64 bits. -/
def wordMax : Nat := 18446744073709551615

/-- Appends digits to a significand as long as it fits 64 bits, and counts those appended. -/
def appendDigits : Nat → Nat → List Char → Nat × Nat
  | n, count, [] => (n, count)
  | n, count, c :: r =>
    let n' := 10 * n + digitValue c
    if n' ≤ wordMax then appendDigits n' (count + 1) r else (n, count)

/-- A double times a power of ten, if it is not too great. -/
def scale : Nat → Binary64 → Int → Option Binary64
  | 0, x, _ => some x
  | fuel + 1, x, e =>
    if e.natAbs ≤ 308 then do
      let p ← Binary64.ofNat (Nat.pow 10 e.natAbs)
      if 0 ≤ e then x.mul p else x.div p
    else if x.significand == 0 then some x
    else if 0 ≤ e then none
    else do scale fuel (← x.div (← Binary64.ofNat (Nat.pow 10 308))) (e + 308)

/-- The double that a number stands for, without its sign, if it is not too great. -/
def NumberText.double (t : NumberText) : Option Binary64 := do
  let whole := t.whole.reverse
  let fraction := t.fraction.reverse
  let (n, taken) := appendDigits 0 0 whole
  let (n, takenAfter) := appendDigits n 0 fraction
  let start : Int := (whole.length - taken : Nat) - (takenAfter : Int)
  let size := t.exponent.reverse.foldl (fun n c => 10 * n + digitValue c) 0
  if 2147483647 < size then
    if n != 0 && !t.exponentNegative then none else Binary64.ofNat 0
  else
    let e := if t.exponentNegative then start - size else start + size
    scale 8000000 (← Binary64.ofNat n) e

def NumberText.datum (t : NumberText) : Datum :=
  let n := t.whole.reverse.foldl (fun n c => 10 * n + digitValue c) 0
  let plain := t.fraction.isEmpty && t.exponent.isEmpty
  if plain && !t.negative && n ≤ wordMax then .int n
  else if plain && t.negative && 0 < n && n ≤ Nat.pow 2 63 then .int (-n)
  else match t.double with
    | some x => .float ((if t.negative then "-" else "") ++ x.shortest.compact)
    | none => .broken

end SessionKeeper.Json

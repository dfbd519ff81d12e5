/-!
# Double precision numbers

A finite double without its sign is `significand · 2 ^ exponent`, with a significand below `2 ^ 53`
and an exponent from -1074 to 971. `Binary64.ofRatio` takes the nearest one to a ratio, and of two
that are as near the one with the even significand; the other operations are exact ones followed by
it.
-/

namespace SessionKeeper

structure Binary64 where
  significand : Nat
  exponent : Int
  deriving DecidableEq, Repr

namespace Binary64

/-- The nearest integer to a ratio, an even one if two are as near. -/
def roundEven (num den : Nat) : Nat :=
  let q := num / den
  let r := num % den
  if 2 * r < den then q
  else if den < 2 * r then q + 1
  else if q % 2 == 0 then q else q + 1

/-- Numerator and denominator of `num / den / 2 ^ e`. -/
def scaled (num den : Nat) (e : Int) : Nat × Nat :=
  if 0 ≤ e then (num, den * Nat.pow 2 e.toNat) else (num * Nat.pow 2 (-e).toNat, den)

/-- The nearest double to a ratio, if it is not past the greatest one. -/
def ofRatio (num den : Nat) : Option Binary64 :=
  if num == 0 then some ⟨0, -1074⟩
  else
    let guess : Int := max (-1074) ((num.log2 : Int) - den.log2 - 53)
    let (n, d) := scaled num den guess
    let e := if Nat.pow 2 53 ≤ n / d then guess + 1 else guess
    let (n, d) := scaled num den e
    let m := roundEven n d
    let (m, e) := if m == Nat.pow 2 53 then (Nat.pow 2 52, e + 1) else (m, e)
    if 971 < e then none else some ⟨m, e⟩

def ofNat (n : Nat) : Option Binary64 := ofRatio n 1

/-- Numerator and denominator of a double. -/
def ratio (x : Binary64) : Nat × Nat :=
  if 0 ≤ x.exponent then (x.significand * Nat.pow 2 x.exponent.toNat, 1)
  else (x.significand, Nat.pow 2 (-x.exponent).toNat)

def mul (x y : Binary64) : Option Binary64 :=
  ofRatio (x.ratio.1 * y.ratio.1) (x.ratio.2 * y.ratio.2)

/-- The quotient by a double that is not zero. -/
def div (x y : Binary64) : Option Binary64 :=
  ofRatio (x.ratio.1 * y.ratio.2) (x.ratio.2 * y.ratio.1)

end Binary64

end SessionKeeper

import SessionKeeper.Number.Binary64

/-!
# The shortest decimal for a double

Of the decimals that read back as a double, the one with the fewest digits is taken, and of several
the nearest to it.
-/

namespace SessionKeeper

namespace Binary64

/-- A decimal `digits · 10 ^ exponent`. -/
structure Decimal where
  digits : Nat
  exponent : Int
  deriving DecidableEq, Repr

/-- Whether the decimal `d · 10 ^ k` rounds to a double that is not zero: it lies between the
middles to both neighbours, the ends counting if the significand is even. -/
def reads (x : Binary64) (d : Nat) (k : Int) : Bool :=
  let (dn, dd) := if 0 ≤ k then (d * Nat.pow 10 k.toNat, 1) else (d, Nat.pow 10 (-k).toNat)
  -- everything in units of a quarter of the last place
  let (n, u) := Binary64.scaled (4 * dn) dd x.exponent
  let below := if x.significand == Nat.pow 2 52 && -1074 < x.exponent then 1 else 2
  let lo := (4 * x.significand - below) * u
  let hi := (4 * x.significand + 2) * u
  if x.significand % 2 == 0 then lo ≤ n && n ≤ hi else lo < n && n < hi

/-- The decimal of `n` digits next below a double, given the number of digits before its point. -/
def floorTo (x : Binary64) (magnitude : Int) (n : Nat) : Decimal :=
  let k := magnitude - n
  let (num, den) := x.ratio
  ⟨if 0 ≤ k then num / (den * Nat.pow 10 k.toNat) else num * Nat.pow 10 (-k).toNat / den, k⟩

/-- The number of digits before the point of a double that is not zero; below one, minus the number
of zeros after the point. -/
def magnitude (x : Binary64) : Int :=
  let (num, den) := x.ratio
  if den ≤ num then (Nat.toDigits 10 (num / den)).length
  else 1 - (Nat.toDigits 10 ((den - 1) / num)).length

/-- Whether the decimal above `d` is nearer to a double than `d` is. -/
def nearerAbove (x : Binary64) (d : Decimal) : Bool :=
  let (num, den) := x.ratio
  let (n, u) := if 0 ≤ d.exponent then (num, den * Nat.pow 10 d.exponent.toNat)
    else (num * Nat.pow 10 (-d.exponent).toNat, den)
  (2 * d.digits + 1) * u < 2 * n

/-- The first grid of decimals, from `n` digits up, that holds one for the double. -/
def search (x : Binary64) (magnitude : Int) : Nat → Nat → Decimal
  | 0, n => x.floorTo magnitude n
  | fuel + 1, n =>
    let d := x.floorTo magnitude n
    let up : Decimal := ⟨d.digits + 1, d.exponent⟩
    match d.digits != 0 && x.reads d.digits d.exponent, x.reads up.digits up.exponent with
    | true, true => if x.nearerAbove d then up else d
    | true, false => d
    | false, true => up
    | false, false => search x magnitude fuel (n + 1)

/-- A decimal without zeros at the end of its digits. -/
def Decimal.strip (d : Decimal) : Nat → Decimal
  | 0 => d
  | fuel + 1 =>
    if d.digits != 0 && d.digits % 10 == 0 then
      Decimal.strip ⟨d.digits / 10, d.exponent + 1⟩ fuel
    else d

/-- The shortest decimal that reads back as a double. -/
def shortest (x : Binary64) : Decimal :=
  if x.significand == 0 then ⟨0, 0⟩ else (x.search x.magnitude 17 1).strip 20

/-- A number of zeros. -/
def zeros (n : Nat) : String := String.ofList (List.replicate n '0')

/-- A decimal without an exponent, and with a point. -/
def Decimal.positional (d : Decimal) : String :=
  let text := toString d.digits
  let point : Int := text.length + d.exponent
  if 0 ≤ d.exponent then text ++ zeros d.exponent.toNat ++ ".0"
  else if 0 < point then
    String.ofList (text.toList.take point.toNat) ++ "." ++
      String.ofList (text.toList.drop point.toNat)
  else "0." ++ zeros (-point).toNat ++ text

/-- An exponent with its sign. -/
def signedExponent (e : Int) : String := (if e < 0 then "e-" else "e+") ++ toString e.natAbs

/-- A decimal with an exponent of ten unless it is from one hundred-thousandth to below `10 ^ 16`.
-/
def Decimal.compact (d : Decimal) : String :=
  let text := toString d.digits
  let point : Int := text.length + d.exponent
  if -5 < point && point ≤ 16 then d.positional
  else
    let rest := String.ofList (text.toList.drop 1)
    let head := String.ofList (text.toList.take 1)
    head ++ (if rest.isEmpty then "" else "." ++ rest) ++ signedExponent (point - 1)

end Binary64

end SessionKeeper

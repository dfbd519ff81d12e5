/-!
# Durations as text

A duration of whole milliseconds is shown in the largest of the units second and millisecond that
it reaches, with the digits after the point that are left; the empty one is shown in nanoseconds.
-/

namespace SessionKeeper.Text

/-- The digits after the point of a number of thousandths, without zeros at the end. -/
def thousandths (n : Nat) : String :=
  if n == 0 then ""
  else if n % 100 == 0 then s!".{n / 100}"
  else if n % 10 == 0 then (if n < 100 then s!".0{n / 10}" else s!".{n / 10}")
  else if n < 10 then s!".00{n}"
  else if n < 100 then s!".0{n}"
  else s!".{n}"

/-- A duration given in milliseconds. -/
def millis (n : Nat) : String :=
  if n == 0 then "0ns"
  else if n < 1000 then s!"{n}ms"
  else s!"{n / 1000}{thousandths (n % 1000)}s"

/-- A duration given in seconds. -/
def seconds (n : Nat) : String := millis (1000 * n)

end SessionKeeper.Text

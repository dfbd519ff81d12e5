/-!
# Unsigned numbers

A number is written with decimal digits only, at least one, after at most one plus sign; leading
zeros count for nothing. `readUpTo` reads one that may not pass a limit.
-/

namespace SessionKeeper.Text

/-- The number that a list of decimal digits stands for, read after a number already read. -/
def digitsFrom (n : Nat) : List Char → Option Nat
  | [] => some n
  | c :: r => if c.isDigit then digitsFrom (10 * n + (c.toNat - '0'.toNat)) r else none

/-- The number that a text of decimal digits stands for. -/
def digits? : List Char → Option Nat
  | [] => none
  | c :: r => digitsFrom 0 (c :: r)

/-- The value of a hexadecimal digit. -/
def hexValue (c : Char) : Option Nat :=
  if c.isDigit then some (c.toNat - '0'.toNat)
  else if 'a' ≤ c && c ≤ 'f' then some (c.toNat - 'a'.toNat + 10)
  else if 'A' ≤ c && c ≤ 'F' then some (c.toNat - 'A'.toNat + 10)
  else none

/-- Reads an unsigned number of at most `limit`, with an optional plus sign. -/
def readUpTo (limit : Nat) (s : String) : Option Nat :=
  let body := match s.toList with
    | '+' :: r => r
    | r => r
  (digits? body).filter (· ≤ limit)

/-- Reads a port number. -/
def readPort (s : String) : Option UInt16 :=
  (readUpTo 65535 s).map UInt16.ofNat

end SessionKeeper.Text
